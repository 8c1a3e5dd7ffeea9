/-
Module: Narrative.Proofs.Passage.Walk
Purpose: The passages that a walk over a node and its descriptors tells, up to where it fails: in
  which order, what they bring, and that their tellings are counted and no other.
Main exports: Tellings, Node.visits, Node.walk, Node.walked, Node.passage_walk, Node.brings_visits,
  Node.ordered_visits
-/
import Narrative.Proofs.Passage.Chain
import Narrative.Proofs.World.Telling

namespace Narrative

/-! ### Listings -/

/-- Passages that are told, in order, each with its path. -/
abbrev Tellings := List (List Nat × Passage)

namespace Tellings

/-- The listing as it is from one step further up. -/
def under (position : Nat) (tellings : Tellings) : Tellings :=
  tellings.map fun (path, passage) => (position :: path, passage)

/-- Whether the passage at a path is listed. -/
def includes (tellings : Tellings) (path : List Nat) : Bool := tellings.any (·.1 = path)

@[simp] theorem includes_nil (path : List Nat) : includes [] path = false := rfl

@[simp] theorem includes_cons (entry : List Nat × Passage) (tellings : Tellings)
    (path : List Nat) :
    includes (entry :: tellings) path = (decide (entry.1 = path) || includes tellings path) := rfl

@[simp] theorem includes_append (first second : Tellings) (path : List Nat) :
    includes (first ++ second) path = (includes first path || includes second path) :=
  List.any_append

@[simp] theorem includes_under (tellings : Tellings) (position place : Nat) (path : List Nat) :
    (tellings.under position).includes (place :: path) =
      (decide (position = place) && tellings.includes path) := by
  by_cases same : position = place <;> simp [includes, under, same, Function.comp_def]

theorem includes_eq_true_iff {tellings : Tellings} {path : List Nat} :
    tellings.includes path = true ↔ ∃ passage, (path, passage) ∈ tellings := by
  simp [includes]

/-- The harvest is what the passages bring, one after the other: the text of each with the number of
its earlier tellings in front, and its impacts. -/
structure Bring (tellings : Tellings) (harvest : Harvest) : Prop where
  parts : tellings.map (·.2.lead) = harvest.parts.map .ok
  impacts : harvest.impacts = tellings.flatMap (·.2.impacts)

theorem bring_single {passage : Passage} {own : Harvest} (path : List Nat)
    (written : Harvest.ofPassage passage = .ok own) : Bring [(path, passage)] own := by
  obtain ⟨text, lead, rfl⟩ := map_eq_ok.1 written
  constructor
  · simp [lead]
  · simp

theorem Bring.append {first second : Tellings} {one other : Harvest} (brings : first.Bring one)
    (later : second.Bring other) : Bring (first ++ second) (one ++ other) := by
  constructor
  · rw [List.map_append, brings.parts, later.parts]
    exact List.map_append.symm
  · rw [List.flatMap_append, ← brings.impacts, ← later.impacts]
    rfl

theorem Bring.under {tellings : Tellings} {harvest : Harvest} (brings : tellings.Bring harvest)
    (position : Nat) : (tellings.under position).Bring harvest := by
  constructor
  · rw [← brings.parts]
    simp [Tellings.under]
  · rw [brings.impacts]
    simp [Tellings.under, List.flatMap_map]

/-- The passages stand in the order of their paths: each before those below it, and those before the
ones at later positions. -/
def Ordered (tellings : Tellings) : Prop := tellings.Pairwise (·.1 < ·.1)

theorem Ordered.under {tellings : Tellings} (ordered : tellings.Ordered) (position : Nat) :
    (tellings.under position).Ordered := by
  apply List.Pairwise.map _ _ ordered
  intro one other before
  exact List.cons_lt_cons_self.2 before

end Tellings

/-! ### Outcomes of tellings -/

namespace Node

variable {has : Reference → Except EvaluationError Bool}

/-- The outcome of a telling: what the passage brings, and then what its descriptors bring. -/
theorem outcome_tell_mk (counts : Bool) (passage : Passage) (descriptors : List Node) :
    (tell has counts ⟨passage, descriptors⟩).2 =
      Harvest.ofPassage passage >>= fun own =>
        (tellChain has counts false descriptors).2.map (own ++ ·) := by
  rw [tell]
  split
  next failed => rw [failed]; rfl
  next own written => rw [written]; rfl

/-- The outcome of telling descriptors, of which the first is left out, unavailable or told. -/
theorem outcome_tellChain_cons (counts told : Bool) (node : Node) (rest : List Node) :
    (tellChain has counts told (node :: rest)).2 =
      if told && node.passage.isOtherwise then (tellChain has counts true rest).2
      else node.passage.isAvailable has >>= fun available =>
        if available then
          (tell has counts node).2 >>= fun harvest =>
            (tellChain has counts true rest).2.map (harvest ++ ·)
        else (tellChain has counts false rest).2 := by
  rw [tellChain]
  split
  · rfl
  · split
    next failed => rw [failed]; rfl
    next shut => rw [shut]; rfl
    next opened =>
      rw [opened]
      split
      next failed => simp [failed, bind, Except.bind]
      next succeeded => simp [succeeded, bind, Except.bind]

mutual

/-- Whether tellings count makes no difference to what they bring. -/
theorem outcome_tell (has : Reference → Except EvaluationError Bool) (counts : Bool) :
    ∀ node : Node, (tell has counts node).2 = (tell has false node).2
  | ⟨passage, descriptors⟩ => by
      rw [outcome_tell_mk, outcome_tell_mk, outcome_tellChain has counts]

theorem outcome_tellChain (has : Reference → Except EvaluationError Bool) (counts : Bool) :
    ∀ (told : Bool) (nodes : List Node),
      (tellChain has counts told nodes).2 = (tellChain has false told nodes).2
  | _, [] => rfl
  | told, node :: rest => by
      rw [outcome_tellChain_cons, outcome_tellChain_cons, outcome_tell has counts node,
        outcome_tellChain has counts true rest, outcome_tellChain has counts false rest]

end

/-! ### The passages that are told -/

mutual

/-- The passages that are told in a telling of a node, up to where it fails. -/
def visits (has : Reference → Except EvaluationError Bool) : Node → Tellings
  | ⟨passage, descriptors⟩ =>
    match passage.lead with
    | .error _ => []
    | .ok _ => ([], passage) :: visitsAmong has false 0 descriptors

/-- The passages that are told in a telling of descriptors from a position on. -/
def visitsAmong (has : Reference → Except EvaluationError Bool) :
    (told : Bool) → (position : Nat) → List Node → Tellings
  | _, _, [] => []
  | told, position, node :: rest =>
    if told && node.passage.isOtherwise then visitsAmong has true (position + 1) rest
    else
      match node.passage.isAvailable has with
      | .error _ => []
      | .ok false => visitsAmong has false (position + 1) rest
      | .ok true =>
        (visits has node).under position ++
          match (tell has false node).2 with
          | .error _ => []
          | .ok _ => visitsAmong has true (position + 1) rest

end

theorem descriptor?_cons (node : Node) (position : Nat) (path : List Nat) :
    node.descriptor? (position :: path) = node.descriptors[position]?.bind (descriptor? path) := by
  rw [descriptor?]
  cases node.descriptors[position]? <;> rfl

mutual

/-- A passage that is told is that of the node at its path. Where the telling does not start, it has
not been told as often as it may be. -/
theorem passage_of_mem_visits : ∀ {node : Node} {path : List Nat} {passage : Passage},
    (path, passage) ∈ visits has node →
      (path = [] ∨ passage.exhausted = false) ∧
        ∃ inner, node.descriptor? path = some inner ∧ inner.passage = passage
  | ⟨own, descriptors⟩, path, passage, member => by
      rw [visits] at member
      split at member
      · cases member
      · rcases List.mem_cons.1 member with here | below
        · cases here
          exact ⟨.inl rfl, _, rfl, rfl⟩
        · obtain ⟨position, inner, rfl, fresh, node, placed, found⟩ :=
            passage_of_mem_visitsAmong below
          exact ⟨.inr fresh, by simpa [descriptor?_cons, placed] using found⟩

theorem passage_of_mem_visitsAmong : ∀ {told : Bool} {position : Nat} {nodes : List Node}
    {path : List Nat} {passage : Passage},
    (path, passage) ∈ visitsAmong has told position nodes →
      ∃ index below, path = (position + index) :: below ∧ passage.exhausted = false ∧
        ∃ node, nodes[index]? = some node ∧
          ∃ inner, node.descriptor? below = some inner ∧ inner.passage = passage
  | _, _, [], path, passage, member => by simp [visitsAmong] at member
  | told, position, node :: rest, path, passage, member => by
      have later {told : Bool}
          (member : (path, passage) ∈ visitsAmong has told (position + 1) rest) :
          ∃ index below, path = (position + index) :: below ∧ passage.exhausted = false ∧
            ∃ one, (node :: rest)[index]? = some one ∧
              ∃ inner, one.descriptor? below = some inner ∧ inner.passage = passage := by
        obtain ⟨index, below, rfl, found⟩ := passage_of_mem_visitsAmong member
        exact ⟨index + 1, below, by rw [Nat.add_right_comm, Nat.add_assoc], found⟩
      rw [visitsAmong] at member
      split at member
      · exact later member
      · split at member
        · cases member
        · exact later member
        next available =>
          rcases List.mem_append.1 member with here | behind
          · obtain ⟨⟨below, _⟩, inside, same⟩ := List.mem_map.1 here
            cases same
            obtain ⟨fresh, inner, found, rfl⟩ := passage_of_mem_visits inside
            refine ⟨0, below, rfl, ?_, node, rfl, inner, found, rfl⟩
            rcases fresh with rfl | fresh
            · cases found
              exact Passage.not_exhausted_of_isAvailable available
            · exact fresh
          · split at behind
            · cases behind
            · exact later behind

end

/-- What is listed from behind a position on does not lie there. -/
theorem includes_visitsAmong_succ (told : Bool) (position : Nat) (nodes : List Node)
    (path : List Nat) :
    (visitsAmong has told (position + 1) nodes).includes (position :: path) = false := by
  rw [← Bool.not_eq_true, Tellings.includes_eq_true_iff]
  rintro ⟨passage, member⟩
  obtain ⟨index, _, same, _⟩ := passage_of_mem_visitsAmong member
  simp only [List.cons.injEq] at same
  omega

/-! ### What is counted -/

mutual

/-- A telling counts the passages that are told, and changes nothing else. -/
theorem passage_tell (has : Reference → Except EvaluationError Bool) (counts : Bool) :
    ∀ (node : Node) (path : List Nat),
      ((tell has counts node).1.descriptor? path).map (·.passage) =
        (node.descriptor? path).map fun inner =>
          inner.passage.told (counts && (visits has node).includes path)
  | ⟨passage, descriptors⟩, path => by
      rw [tell, visits]
      cases written : passage.lead with
      | error fault => simp [Harvest.ofPassage, written, Except.map]
      | ok text =>
          cases path with
          | nil => simp [Harvest.ofPassage, written, Except.map, descriptor?]
          | cons position path =>
              have below := passage_tellChain has counts false 0 descriptors position path
              rw [Nat.zero_add] at below
              simpa [Harvest.ofPassage, written, Except.map, descriptor?_cons] using below

theorem passage_tellChain (has : Reference → Except EvaluationError Bool) (counts : Bool) :
    ∀ (told : Bool) (position : Nat) (nodes : List Node) (index : Nat) (path : List Nat),
      (((tellChain has counts told nodes).1[index]?).bind (descriptor? path)).map (·.passage) =
        ((nodes[index]?).bind (descriptor? path)).map fun inner =>
          inner.passage.told
            (counts && (visitsAmong has told position nodes).includes ((position + index) :: path))
  | _, _, [], _, _ => rfl
  | told, position, node :: rest, index, path => by
      have later (told : Bool) (index : Nat) :=
        passage_tellChain has counts told (position + 1) rest index path
      have behind (index : Nat) : position + 1 + index = position + (index + 1) := by omega
      -- What is told lies behind the first node unless that is told itself.
      have passedOver (told : Bool) :
          (((node :: (tellChain has counts told rest).1)[index]?).bind
              (descriptor? path)).map (·.passage) =
            (((node :: rest)[index]?).bind (descriptor? path)).map fun inner =>
              inner.passage.told
                (counts && (visitsAmong has told (position + 1) rest).includes
                  ((position + index) :: path)) := by
        cases index with
        | zero => simp [includes_visitsAmong_succ]
        | succ index => simpa [behind] using later told index
      rw [tellChain, visitsAmong]
      by_cases skipped : (told && node.passage.isOtherwise) = true
      · rw [if_pos skipped, if_pos skipped]
        exact passedOver true
      · rw [if_neg skipped, if_neg skipped]
        cases available : node.passage.isAvailable has with
        | error fault => simp
        | ok isAvailable =>
            cases isAvailable with
            | false => exact passedOver false
            | true =>
                have kept := passage_tell has counts node path
                rw [← outcome_tell has counts node]
                cases ended : tell has counts node with
                | mk after outcome =>
                    rw [ended] at kept
                    cases outcome with
                    | error fault =>
                        cases index with
                        | zero => simpa using kept
                        | succ index => simp
                    | ok harvest =>
                        cases index with
                        | zero => simpa [includes_visitsAmong_succ] using kept
                        | succ index => simpa [behind] using later true index

end

/-! ### What is brought -/

mutual

theorem brings_visits {counts : Bool} : ∀ {node : Node} {harvest : Harvest},
    (tell has counts node).2 = .ok harvest → (visits has node).Bring harvest
  | ⟨passage, descriptors⟩, harvest, ended => by
      rw [outcome_tell_mk] at ended
      obtain ⟨own, own_written, ended⟩ := bind_eq_ok.1 ended
      obtain ⟨below, below_ended, rfl⟩ := map_eq_ok.1 ended
      obtain ⟨text, written, _⟩ := map_eq_ok.1 own_written
      rw [visits, written]
      exact (Tellings.bring_single [] own_written).append (brings_visitsAmong below_ended)

theorem brings_visitsAmong {counts : Bool} : ∀ {told : Bool} {position : Nat} {nodes : List Node}
    {harvest : Harvest}, (tellChain has counts told nodes).2 = .ok harvest →
      (visitsAmong has told position nodes).Bring harvest
  | _, _, [], harvest, ended => by
      cases ended
      exact ⟨rfl, rfl⟩
  | told, position, node :: rest, harvest, ended => by
      rw [outcome_tellChain_cons] at ended
      rw [visitsAmong]
      split at ended
      next skipped =>
        rw [if_pos skipped]
        exact brings_visitsAmong ended
      next considered =>
        rw [if_neg considered]
        obtain ⟨isAvailable, available, ended⟩ := bind_eq_ok.1 ended
        rw [available]
        split at ended
        next isTold =>
          obtain ⟨first, first_ended, ended⟩ := bind_eq_ok.1 ended
          obtain ⟨others, others_ended, rfl⟩ := map_eq_ok.1 ended
          rw [isTold, ← outcome_tell has counts node, first_ended]
          exact ((brings_visits first_ended).under position).append
            (brings_visitsAmong others_ended)
        next isPassed =>
          rw [Bool.not_eq_true] at isPassed
          rw [isPassed]
          exact brings_visitsAmong ended

end

mutual

theorem ordered_visits (has : Reference → Except EvaluationError Bool) :
    ∀ node : Node, (visits has node).Ordered
  | ⟨passage, descriptors⟩ => by
      rw [visits]
      split
      · exact List.Pairwise.nil
      · apply List.Pairwise.cons
        · intro entry member
          obtain ⟨index, below, same, _⟩ := passage_of_mem_visitsAmong member
          rw [same]
          exact List.nil_lt_cons _ below
        · exact ordered_visitsAmong has false 0 descriptors

theorem ordered_visitsAmong (has : Reference → Except EvaluationError Bool) :
    ∀ (told : Bool) (position : Nat) (nodes : List Node),
      (visitsAmong has told position nodes).Ordered
  | _, _, [] => List.Pairwise.nil
  | told, position, node :: rest => by
      rw [visitsAmong]
      split
      · exact ordered_visitsAmong has true (position + 1) rest
      · split
        · exact List.Pairwise.nil
        · exact ordered_visitsAmong has false (position + 1) rest
        · apply List.pairwise_append.2
          refine ⟨(ordered_visits has node).under position, ?_, ?_⟩
          · split
            · exact List.Pairwise.nil
            · exact ordered_visitsAmong has true (position + 1) rest
          · intro one here other behind
            split at behind
            · cases behind
            · obtain ⟨inner, _, rfl⟩ := List.mem_map.1 here
              obtain ⟨index, below, same, _⟩ := passage_of_mem_visitsAmong behind
              rw [same]
              exact List.cons_lt_cons_iff.2 (.inl (by omega))

end

/-! ### The walk from a node

Where a walk starts, it depends on the node whether it is told at all, and a location that lies in no
other always is. An evaluation in a world makes this walk over the node that it is asked to evaluate:
`World.outcome_collect` and `World.node?_collect` say so. -/

/-- Whether a walk tells the node where it starts. -/
def starts (always : Bool) (has : Reference → Except EvaluationError Bool) (node : Node) :
    Except EvaluationError Bool :=
  if always then .ok true else node.passage.isAvailable has

/-- The walk over a node. -/
def walk (always : Bool) (has : Reference → Except EvaluationError Bool) (counts : Bool)
    (node : Node) : Node × Except EvaluationError Harvest :=
  match starts always has node with
  | .error fault => (node, .error fault)
  | .ok false => (node, .ok {})
  | .ok true => node.tell has counts

/-- The passages that are told in the walk over a node. -/
def walked (always : Bool) (has : Reference → Except EvaluationError Bool) (node : Node) :
    Tellings :=
  match starts always has node with
  | .ok true => visits has node
  | _ => []

/-- A walk counts one telling of each passage that it tells, and none of any other. -/
theorem passage_walk (always : Bool) (has : Reference → Except EvaluationError Bool)
    (counts : Bool) (node : Node) (path : List Nat) :
    ((walk always has counts node).1.descriptor? path).map (·.passage) =
      (node.descriptor? path).map fun inner =>
        inner.passage.told (counts && (walked always has node).includes path) := by
  unfold walk walked
  cases starts always has node with
  | error fault => simp
  | ok told =>
      cases told with
      | false => simp
      | true => exact passage_tell has counts node path

/-- A walk that does not fail brings what the passages bring that it tells. -/
theorem brings_walked {always counts : Bool} {node : Node} {harvest : Harvest}
    (ended : (walk always has counts node).2 = .ok harvest) :
    (walked always has node).Bring harvest := by
  unfold walk at ended
  unfold walked
  cases started : starts always has node with
  | error fault =>
      rw [started] at ended
      cases ended
  | ok told =>
      rw [started] at ended
      cases told with
      | false =>
          cases ended
          exact ⟨rfl, rfl⟩
      | true => exact brings_visits ended

end Node

end Narrative
