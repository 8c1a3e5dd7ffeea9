/-
Module: Narrative.Proofs.Passage.Meaning
Purpose: What a walk over a node and its descriptors means, said of the node as it is before the walk:
  which passages fire, what they bring and count, and whose requirements are asked for.
Main exports: Node.Fires, Node.Asks, Node.tell_congr, Node.Means, Node.walk_means
-/
import Narrative.Proofs.Passage.Saying

namespace Narrative.Node

variable {has : Reference → Except EvaluationError Bool}

/-! ### Who is told, and who is asked for

The meaning of a node, said of the node as it is before the walk and of its chains of descriptors. -/

/-- With a node that is told, the passage at a path below it is told too: in each chain of descriptors
the first that may be told is told, and no other. -/
inductive Fires (has : Reference → Except EvaluationError Bool) : Node → List Nat → Passage → Prop
  | self (node : Node) : Fires has node [] node.passage
  | descriptor {node inner : Node} {chain : List (Node × Nat)} {position : Nat} {path : List Nat}
      {passage : Passage} (cut : chain ∈ chains 0 node.descriptors)
      (first : chain.find? (·.1.passage.isOpen has) = some (inner, position))
      (fires : Fires has inner path passage) : Fires has node (position :: path) passage

/-- With a node that is told, it is asked whether the passage below it may be told: in each chain of
descriptors this is asked up to the first that may. -/
inductive Asks (has : Reference → Except EvaluationError Bool) : Node → Passage → Prop
  | here {node : Node} {chain : List (Node × Nat)} {entry : Node × Nat}
      (cut : chain ∈ chains 0 node.descriptors) (member : entry ∈ considered has chain) :
      Asks has node entry.1.passage
  | descriptor {node inner : Node} {chain : List (Node × Nat)} {position : Nat}
      {passage : Passage} (cut : chain ∈ chains 0 node.descriptors)
      (first : chain.find? (·.1.passage.isOpen has) = some (inner, position))
      (asks : Asks has inner passage) : Asks has node passage

/-- One of the descriptors that are considered is so. -/
def Among (has : Reference → Except EvaluationError Bool) (told : Bool) (position : Nat)
    (nodes : List Node) (Is : Node → Nat → Prop) : Prop :=
  ∃ node place, (node, place) ∈ asked has told position nodes ∧ Is node place

theorem among_cons_iff {told : Bool} {position : Nat} {node : Node} {rest : List Node}
    {Is : Node → Nat → Prop} :
    Among has told position (node :: rest) Is ↔
      if told && node.passage.isOtherwise then Among has true (position + 1) rest Is
      else Is node position ∨ Among has (node.passage.isOpen has) (position + 1) rest Is := by
  unfold Among
  rw [asked]
  split
  · rfl
  · constructor
    · rintro ⟨inner, place, member, holds⟩
      rcases List.mem_cons.1 member with here | behind
      · cases here
        exact .inl holds
      · exact .inr ⟨inner, place, behind, holds⟩
    · rintro (holds | ⟨inner, place, behind, holds⟩)
      · exact ⟨node, position, List.mem_cons_self, holds⟩
      · exact ⟨inner, place, List.mem_cons_of_mem _ behind, holds⟩

/-- With the descriptor, the passage at a path is told. -/
def FiresAt (has : Reference → Except EvaluationError Bool) (path : List Nat) (passage : Passage)
    (node : Node) (place : Nat) : Prop :=
  node.passage.isOpen has = true ∧ ∃ below, path = place :: below ∧ Fires has node below passage

/-- With the descriptor, it is asked for the passage. -/
def AsksAt (has : Reference → Except EvaluationError Bool) (passage : Passage) (node : Node)
    (_ : Nat) : Prop :=
  node.passage = passage ∨ node.passage.isOpen has = true ∧ Asks has node passage

theorem fires_mk_iff {own passage : Passage} {descriptors : List Node} {path : List Nat} :
    Fires has ⟨own, descriptors⟩ path passage ↔
      (path, passage) = ([], own) ∨ Among has false 0 descriptors (FiresAt has path passage) := by
  constructor
  · intro fires
    cases fires with
    | self => exact .inl rfl
    | descriptor cut first fires =>
        obtain ⟨member, opened⟩ := exists_first_iff.1 ⟨_, cut, first⟩
        exact .inr ⟨_, _, member, opened, _, rfl, fires⟩
  · rintro (same | ⟨node, place, member, opened, below, rfl, fires⟩)
    · cases same
      exact .self _
    · obtain ⟨chain, cut, first⟩ := exists_first_iff.2 ⟨member, opened⟩
      exact .descriptor cut first fires

theorem asks_of_among {own passage : Passage} {descriptors : List Node}
    (asks : Among has false 0 descriptors (AsksAt has passage)) :
    Asks has ⟨own, descriptors⟩ passage := by
  obtain ⟨node, place, member, rfl | ⟨opened, asks⟩⟩ := asks
  · rw [asked_eq_flatMap] at member
    obtain ⟨chain, cut, member⟩ := List.mem_flatMap.1 member
    exact .here cut member
  · obtain ⟨chain, cut, first⟩ := exists_first_iff.2 ⟨member, opened⟩
    exact .descriptor cut first asks

theorem isOpen_of_available {passage : Passage} {answer : Bool}
    (available : passage.isAvailable has = .ok answer) : passage.isOpen has = answer := by
  rw [Passage.isOpen, available]

theorem mem_under_iff {tellings : Tellings} {position : Nat} {path : List Nat}
    {passage : Passage} :
    (path, passage) ∈ tellings.under position ↔
      ∃ below, path = position :: below ∧ (below, passage) ∈ tellings := by
  simp only [Tellings.under, List.mem_map, Prod.mk.injEq]
  constructor
  · rintro ⟨entry, member, rfl, rfl⟩
    exact ⟨entry.1, rfl, member⟩
  · rintro ⟨below, rfl, member⟩
    exact ⟨(below, passage), member, rfl, rfl⟩

mutual

/-- A telling that does not fail tells the passages that fire, all of them and no other. -/
theorem mem_visits_iff {counts : Bool} : ∀ {node : Node} {harvest : Harvest},
    (tell has counts node).2 = .ok harvest → ∀ {path : List Nat} {passage : Passage},
      (path, passage) ∈ visits has node ↔ Fires has node path passage
  | ⟨own, descriptors⟩, harvest, ended, path, passage => by
      rw [outcome_tell_mk] at ended
      obtain ⟨first, written, ended⟩ := bind_eq_ok.1 ended
      obtain ⟨below, below_ended, _⟩ := map_eq_ok.1 ended
      obtain ⟨text, lead, _⟩ := map_eq_ok.1 written
      rw [visits, lead, List.mem_cons, mem_visitsAmong_iff below_ended, fires_mk_iff]

theorem mem_visitsAmong_iff {counts : Bool} : ∀ {told : Bool} {position : Nat} {nodes : List Node}
    {harvest : Harvest}, (tellChain has counts told nodes).2 = .ok harvest →
      ∀ {path : List Nat} {passage : Passage},
        (path, passage) ∈ visitsAmong has told position nodes ↔
          Among has told position nodes (FiresAt has path passage)
  | _, _, [], harvest, ended, path, passage => by simp [visitsAmong, Among, asked]
  | told, position, node :: rest, harvest, ended, path, passage => by
      rw [outcome_tellChain_cons] at ended
      rw [visitsAmong, among_cons_iff]
      split at ended
      next skipped =>
        rw [if_pos skipped, if_pos skipped, mem_visitsAmong_iff ended]
      next considered =>
        rw [if_neg considered, if_neg considered]
        obtain ⟨isAvailable, available, ended⟩ := bind_eq_ok.1 ended
        rw [FiresAt, isOpen_of_available available, available]
        split at ended
        next isTold =>
          obtain ⟨first, first_ended, ended⟩ := bind_eq_ok.1 ended
          obtain ⟨others, others_ended, rfl⟩ := map_eq_ok.1 ended
          rw [isTold, ← outcome_tell has counts node, first_ended]
          simp [mem_under_iff, mem_visits_iff first_ended, mem_visitsAmong_iff others_ended]
        next isPassed =>
          rw [Bool.not_eq_true] at isPassed
          rw [isPassed]
          simp [mem_visitsAmong_iff ended]

end

mutual

/-- A telling fails only at the facts of a passage that it asks for, or at the number of tellings of
a passage that fires. -/
theorem tell_stops {counts : Bool} : ∀ {node : Node} {error : EvaluationError},
    (tell has counts node).2 = .error error →
      (∃ passage, Asks has node passage ∧ passage.isAvailable has = .error error) ∨
      (error.isTold = false ∧
        ∃ path passage, Fires has node path passage ∧ passage.Overtold)
  | ⟨own, descriptors⟩, error, failed => by
      rw [outcome_tell_mk] at failed
      rcases bind_eq_error.1 failed with unwritten | ⟨first, _, failed⟩
      · obtain ⟨untold, overtold⟩ := Passage.lead_error (map_eq_error.1 unwritten)
        exact .inr ⟨untold, [], own, .self _, overtold⟩
      · rcases tellChain_stops (map_eq_error.1 failed) with
          ⟨passage, asks, doubtful⟩ | ⟨untold, path, passage, fires, overtold⟩
        · exact .inl ⟨passage, asks_of_among asks, doubtful⟩
        · exact .inr ⟨untold, path, passage, fires_mk_iff.2 (.inr fires), overtold⟩

theorem tellChain_stops {counts : Bool} : ∀ {told : Bool} {position : Nat} {nodes : List Node}
    {error : EvaluationError}, (tellChain has counts told nodes).2 = .error error →
      (∃ passage, Among has told position nodes (AsksAt has passage) ∧
        passage.isAvailable has = .error error) ∨
      (error.isTold = false ∧ ∃ path passage,
        Among has told position nodes (FiresAt has path passage) ∧ passage.Overtold)
  | _, _, [], error, failed => by cases failed
  | told, position, node :: rest, error, failed => by
      rw [outcome_tellChain_cons] at failed
      simp only [among_cons_iff]
      split at failed
      next skipped =>
        simp only [if_pos skipped]
        exact tellChain_stops failed
      next considered =>
        simp only [if_neg considered]
        rcases bind_eq_error.1 failed with doubtful | ⟨isAvailable, available, failed⟩
        · exact .inl ⟨node.passage, .inl (.inl rfl), doubtful⟩
        · have opened := isOpen_of_available available
          rw [opened]
          cases isAvailable with
          | false =>
              have failed : (tellChain has counts false rest).2 = .error error := failed
              rcases tellChain_stops failed with
                ⟨passage, asks, doubtful⟩ | ⟨untold, path, passage, fires, overtold⟩
              · exact .inl ⟨passage, .inr asks, doubtful⟩
              · exact .inr ⟨untold, path, passage, .inr fires, overtold⟩
          | true =>
              rcases bind_eq_error.1 failed with stopped | ⟨first, _, failed⟩
              · rcases tell_stops stopped with
                  ⟨passage, asks, doubtful⟩ | ⟨untold, path, passage, fires, overtold⟩
                · exact .inl ⟨passage, .inl (.inr ⟨opened, asks⟩), doubtful⟩
                · exact .inr ⟨untold, position :: path, passage,
                    .inl ⟨opened, path, rfl, fires⟩, overtold⟩
              · rcases tellChain_stops (map_eq_error.1 failed) with
                  ⟨passage, asks, doubtful⟩ | ⟨untold, path, passage, fires, overtold⟩
                · exact .inl ⟨passage, .inr asks, doubtful⟩
                · exact .inr ⟨untold, path, passage, .inr fires, overtold⟩

end

/-! ### What the answers matter to

A passage that is not asked for does not matter, whatever the answers to its references are. -/

theorem evaluate_congr {other : Reference → Except EvaluationError Bool} {formula : Formula}
    (agree : ∀ reference ∈ formula.references, other reference = has reference) :
    formula.evaluate other = formula.evaluate has := by
  induction formula with
  | fact reference => exact agree reference (List.mem_singleton_self _)
  | not operand ih => rw [Formula.evaluate, Formula.evaluate, ih agree]
  | and left right ihLeft ihRight | or left right ihLeft ihRight =>
      obtain ⟨first, second⟩ := List.forall_mem_append.1 agree
      rw [Formula.evaluate, Formula.evaluate, ihLeft first, ihRight second]

/-- Two predicates answer the references of a passage alike. -/
def Alike (has other : Reference → Except EvaluationError Bool) (passage : Passage) : Prop :=
  ∀ requirement ∈ passage.requirement?, ∀ reference ∈ requirement.references,
    other reference = has reference

theorem Alike.isAvailable_eq {other : Reference → Except EvaluationError Bool}
    {passage : Passage} (alike : Alike has other passage) :
    passage.isAvailable other = passage.isAvailable has := by
  unfold Passage.isAvailable
  split
  · rfl
  · split
    next => rfl
    next requirement present => exact evaluate_congr (alike requirement present)

mutual

/-- A telling depends on the answers for the passages that it asks for, and on no other. -/
theorem tell_congr {other : Reference → Except EvaluationError Bool} (counts : Bool) :
    ∀ {node : Node}, (∀ passage, Asks has node passage → Alike has other passage) →
      tell other counts node = tell has counts node
  | ⟨own, descriptors⟩, alike => by
      have below : tellChain other counts false descriptors =
          tellChain has counts false descriptors := by
        apply tellChain_congr counts 0
        intro passage asks
        exact alike passage (asks_of_among asks)
      rw [tell, tell, below]

theorem tellChain_congr {other : Reference → Except EvaluationError Bool} (counts : Bool) :
    ∀ {told : Bool} (position : Nat) {nodes : List Node},
      (∀ passage, Among has told position nodes (AsksAt has passage) → Alike has other passage) →
        tellChain other counts told nodes = tellChain has counts told nodes
  | _, _, [], _ => rfl
  | told, position, node :: rest, alike => by
      simp only [among_cons_iff] at alike
      rw [tellChain, tellChain]
      split
      next skipped =>
        simp only [if_pos skipped] at alike
        rw [tellChain_congr counts (position + 1) alike]
      next considered =>
        simp only [if_neg considered] at alike
        have same := (alike node.passage (.inl (.inl rfl))).isAvailable_eq
        rw [same]
        cases available : node.passage.isAvailable has with
        | error fault => rfl
        | ok answer =>
            have opened := isOpen_of_available available
            have later : tellChain other counts answer rest = tellChain has counts answer rest := by
              apply tellChain_congr counts (position + 1)
              intro passage asks
              exact alike passage (.inr (opened ▸ asks))
            cases answer with
            | false =>
                dsimp only
                rw [later]
            | true =>
                have here : tell other counts node = tell has counts node := by
                  apply tell_congr counts
                  intro passage asks
                  exact alike passage (.inl (.inr ⟨opened, asks⟩))
                dsimp only
                rw [here, later]

end

/-! ### The meaning of a walk -/

/-- The passages that fire in a walk, in order, and what comes of the walk with them: they say the text and
have the impacts, and if the walk counts, each of them has been told once more. Nothing else of any passage
has changed. -/
structure Means (always counts : Bool) (has : Reference → Except EvaluationError Bool)
    (node after : Node) (harvest : Harvest) (fired : Tellings) : Prop where
  ordered : fired.Ordered
  fires : ∀ path passage, (path, passage) ∈ fired ↔
    (always = true ∨ node.passage.isOpen has = true) ∧ Fires has node path passage
  parts : harvest.parts = fired.map (·.2.saying)
  text : harvest.text = String.join (fired.map (·.2.saying))
  impacts : harvest.impacts = fired.flatMap (·.2.impacts)
  counted : ∀ path, (after.descriptor? path).map (·.passage) =
    (node.descriptor? path).map fun inner =>
      if counts && fired.includes path then
        { inner.passage with count := .number (inner.passage.count.value + 1) }
      else inner.passage

theorem starts_iff {always : Bool} {node : Node} :
    starts always has node = .ok true ↔ always = true ∨ node.passage.isOpen has = true := by
  unfold starts Passage.isOpen
  cases always with
  | true => simp
  | false => cases node.passage.isAvailable has <;> simp

/-- A walk asks whether the node may be told where it starts, unless it always is; and below a node
that is told it asks as the chains say. -/
def Consults (always : Bool) (has : Reference → Except EvaluationError Bool) (node : Node)
    (passage : Passage) : Prop :=
  (always = false ∧ passage = node.passage) ∨
    ((always = true ∨ node.passage.isOpen has = true) ∧ Asks has node passage)

theorem means_of_walk {always counts : Bool} {node : Node} {harvest : Harvest}
    (ended : (walk always has counts node).2 = .ok harvest) :
    Means always counts has node (walk always has counts node).1 harvest
      (walked always has node) := by
  have brings := brings_walked ended
  refine ⟨?_, ?_, brings.parts_eq, congrArg String.join brings.parts_eq, brings.impacts,
    passage_walk always has counts node⟩
  · unfold walked
    split
    · exact ordered_visits has node
    · exact List.Pairwise.nil
  · intro path passage
    rw [← starts_iff]
    unfold walk at ended
    unfold walked
    cases started : starts always has node with
    | error fault => simp
    | ok told =>
        rw [started] at ended
        cases told with
        | false => simp
        | true => simp [mem_visits_iff ended]

/-- If all references are answered, a walk fails only at the number of tellings of a passage that
fires. -/
theorem walk_stops {always counts : Bool} {answers : Reference → Bool} {node : Node}
    {error : EvaluationError}
    (failed : (walk always (answering answers) counts node).2 = .error error) :
    error = .unwritableCount ∧ (always = true ∨ node.passage.isOpen (answering answers) = true) ∧
      ∃ path passage, Fires (answering answers) node path passage ∧ passage.Unsayable := by
  unfold walk at failed
  split at failed
  next fault doubtful =>
    unfold starts at doubtful
    split at doubtful
    · cases doubtful
    · exact absurd doubtful (Passage.isAvailable_answering answers _ _)
  next => cases failed
  next started =>
    rcases tell_stops failed with ⟨passage, _, doubtful⟩ | ⟨untold, path, passage, fires, overtold⟩
    · exact absurd doubtful (Passage.isAvailable_answering answers _ _)
    · refine ⟨?_, starts_iff.1 started, path, passage, fires, Passage.unsayable_of_overtold overtold⟩
      cases error with
      | unwritableCount => rfl
      | _ => cases untold

theorem walk_congr {always : Bool} {other : Reference → Except EvaluationError Bool}
    (counts : Bool) {node : Node}
    (alike : ∀ passage, Consults always has node passage → Alike has other passage) :
    walk always other counts node = walk always has counts node := by
  have begun : starts always other node = starts always has node := by
    cases always with
    | true => rfl
    | false => exact (alike node.passage (.inl ⟨rfl, rfl⟩)).isAvailable_eq
  unfold walk
  rw [begun]
  split
  next => rfl
  next => rfl
  next started =>
    apply tell_congr counts
    intro passage asks
    exact alike passage (.inr ⟨starts_iff.1 started, asks⟩)

/-- The meaning of a walk over a node when all references are answered. A passage is open if it has not
been told as often as it may be and its requirement holds. Unless a passage fires that was told too often
for the number to be written, the passages that fire are those that the chains say, in the order of their
paths; they say the text and have the impacts, and they have been told once more if the walk counts. What
is brought does not depend on that, and nothing depends on the answers for a passage that is not asked for,
if there are any. -/
theorem walk_means (always counts : Bool) (answers : Reference → Bool) (node : Node) :
    let has := answering answers
    (∀ passage : Passage, passage.isOpen has = true ↔ passage.MayTell answers) ∧
    ((∃ harvest fired, (walk always has counts node).2 = .ok harvest ∧
        Means always counts has node (walk always has counts node).1 harvest fired) ∨
      ((walk always has counts node).2 = .error .unwritableCount ∧
        (always = true ∨ node.passage.isOpen has = true) ∧
        ∃ path passage, Fires has node path passage ∧ passage.Unsayable)) ∧
    (walk always has (!counts) node).2 = (walk always has counts node).2 ∧
    ∀ other : Reference → Except EvaluationError Bool,
      (∀ passage, Consults always has node passage → Alike has other passage) →
        walk always other counts node = walk always has counts node := by
  refine ⟨fun passage => Passage.isOpen_iff, ?_, ?_, ?_⟩
  · cases outcome : (walk always (answering answers) counts node).2 with
    | ok harvest => exact .inl ⟨harvest, _, rfl, means_of_walk outcome⟩
    | error error =>
        obtain ⟨rfl, started, fires⟩ := walk_stops outcome
        exact .inr ⟨rfl, started, fires⟩
  · unfold walk
    split
    · rfl
    · rfl
    · rw [outcome_tell _ (!counts), outcome_tell _ counts]
  · exact fun other alike => walk_congr counts alike

/-- One line of a description, told if the entity has a tag. -/
def line (correlation : Correlation) (tag : String) : Node :=
  ⟨{ description? := some tag, requirement? := some ⟨tag, .fact (.own tag)⟩, correlation }, []⟩

/-- A lamp that is lit, or else dim, or else dark, and that was new when it was first told of. -/
def lamp : Node :=
  ⟨{ description? := some "The lamp is ", count := .number 2 },
    [line .none "lit", line .otherwise "dim", line .otherwise "dark",
      ⟨{ description? := some " and new", count := .number 1, limit := .number 1 }, []⟩]⟩

/-- If the lamp is dim, it does not matter if nobody can tell whether it is dark. Of the lamp and of the
line that it is dim, one more telling is counted. -/
theorem walk_means_lamp :
    let dim : Reference → Bool := (· = .own "dim")
    let undecided : Reference → Except EvaluationError Bool := fun reference =>
      if reference = .own "dark" then .error (.unknownReference "dark" .element)
      else .ok (dim reference)
    (walk false undecided true lamp).2.map (·.text) =
        .ok "[p]\x7b2\x7dThe lamp is [p]\x7b0\x7ddim" ∧
      [[], [0], [1], [2], [3]].map (fun path =>
          ((walk false undecided true lamp).1.descriptor? path).map (·.passage.count.value)) =
        [some 3, some 0, some 1, some 0, some 1] ∧
      walk false undecided true lamp = walk false (answering dim) true lamp := by
  intro dim undecided
  refine ⟨by decide +kernel, by decide +kernel, (walk_means false true dim lamp).2.2.2 undecided ?_⟩
  have chain : chains 0 lamp.descriptors =
      [[(line .none "lit", 0), (line .otherwise "dim", 1), (line .otherwise "dark", 2)],
        [(⟨{ description? := some " and new", count := .number 1, limit := .number 1 }, []⟩, 3)]] := rfl
  intro passage consults requirement present reference member
  have consulted : passage.requirement? = none ∨ passage = (line .none "lit").passage ∨
      passage = (line .otherwise "dim").passage := by
    rcases consults with ⟨_, rfl⟩ | ⟨_, asks⟩
    · exact .inl rfl
    · cases asks with
      | here cut among =>
          rw [chain, List.mem_cons, List.mem_singleton] at cut
          rcases cut with rfl | rfl
          · change _ ∈ [(line .none "lit", 0), (line .otherwise "dim", 1)] at among
            rcases List.mem_cons.1 among with rfl | among
            · exact .inr (.inl rfl)
            · rw [List.mem_singleton.1 among]
              exact .inr (.inr rfl)
          · change _ ∈ [_] at among
            rw [List.mem_singleton.1 among]
            exact .inl rfl
      | descriptor cut first asks =>
          rw [chain, List.mem_cons, List.mem_singleton] at cut
          rcases cut with rfl | rfl
          · cases first
            -- Nothing stands below the line that is told.
            cases asks with
            | here cut _ | descriptor cut _ _ => cases cut
          · cases first
  rcases consulted with none | rfl | rfl
  · rw [none] at present
    cases present
  · cases present
    rw [List.mem_singleton.1 member]
    decide
  · cases present
    rw [List.mem_singleton.1 member]
    decide

end Narrative.Node
