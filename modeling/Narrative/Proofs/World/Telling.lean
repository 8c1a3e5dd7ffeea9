/-
Module: Narrative.Proofs.World.Telling
Purpose: What telling a node keeps, what it brings, and why it can fail. It only counts; its impacts
  are those of passages below the node; and it fails at a reference of one of them, or at a number of
  tellings that is too long to be written.
Main exports: Node.Holds, Passage.Overtold, Node.plan_tell, Node.impacts_of_tell, Node.tell_error,
  NodePath.down, World.node?_down, World.node?_modifyNode
-/
import Narrative.Proofs.World.Resolved

namespace Narrative

/-! ### The passages below a node -/

namespace Node

/-- The passage is that of the node or of a descriptor somewhere below it. -/
def Holds (node : Node) (passage : Passage) : Prop :=
  ∃ path inner, node.descriptor? path = some inner ∧ inner.passage = passage

theorem holds_self (node : Node) : node.Holds node.passage := ⟨[], node, rfl, rfl⟩

theorem holds_of_mem {node descriptor : Node} {passage : Passage}
    (member : descriptor ∈ node.descriptors) (held : descriptor.Holds passage) :
    node.Holds passage := by
  obtain ⟨path, inner, found, same⟩ := held
  obtain ⟨position, placed⟩ := List.mem_iff_getElem?.1 member
  exact ⟨position :: path, inner, by simpa [descriptor?, placed] using found, same⟩

theorem holds_cases {node : Node} {passage : Passage} (held : node.Holds passage) :
    passage = node.passage ∨ ∃ descriptor ∈ node.descriptors, descriptor.Holds passage := by
  obtain ⟨path, inner, found, rfl⟩ := held
  cases path with
  | nil =>
      cases found
      exact .inl rfl
  | cons position path =>
      simp only [descriptor?] at found
      split at found
      next child placed => exact .inr ⟨child, List.mem_of_getElem? placed, path, inner, found, rfl⟩
      next => cases found

end Node

/-- The passage has a text, and was told so often that the number cannot be written before it. -/
def Passage.Overtold (passage : Passage) : Prop :=
  passage.description?.isSome ∧ passage.count.written? = none

theorem Passage.lead_error {passage : Passage} {error : EvaluationError}
    (failed : passage.lead = .error error) : error.isTold = false ∧ passage.Overtold := by
  unfold lead at failed
  split at failed
  next => cases failed
  next description present =>
    split at failed
    next => cases failed
    next unwritten =>
      cases failed
      exact ⟨rfl, by simp [present], unwritten⟩

namespace Node

variable {has : Reference → Except EvaluationError Bool} {counts : Bool}

/-! ### Telling only counts -/

mutual

theorem plan_tell (has : Reference → Except EvaluationError Bool) (counts : Bool) :
    ∀ node : Node, (tell has counts node).1.plan = node.plan
  | ⟨passage, descriptors⟩ => by
      rw [tell]
      split
      · rfl
      · apply plan_congr
        · exact Passage.plan_told passage counts
        · exact plan_tellChain has counts false descriptors

theorem plan_tellChain (has : Reference → Except EvaluationError Bool) (counts : Bool) :
    ∀ (told : Bool) (nodes : List Node),
      (tellChain has counts told nodes).1.map plan = nodes.map plan
  | _, [] => rfl
  | told, node :: rest => by
      rw [tellChain]
      split
      · simp [plan_tellChain has counts true rest]
      · split
        · rfl
        · simp [plan_tellChain has counts false rest]
        · have kept := plan_tell has counts node
          split
          next after error stopped =>
            rw [stopped] at kept
            simp [kept]
          next after harvest told =>
            rw [told] at kept
            simp [kept, plan_tellChain has counts true rest]

end

/-! ### What a telling brings -/

mutual

/-- Every impact that a telling brings is one of a passage below the node. -/
theorem impacts_of_tell : ∀ {node : Node} {harvest : Harvest},
    (tell has counts node).2 = .ok harvest →
      ∀ impact ∈ harvest.impacts, ∃ passage, node.Holds passage ∧ impact ∈ passage.impacts
  | ⟨passage, descriptors⟩, harvest, ended => by
      rw [tell] at ended
      split at ended
      next => cases ended
      next own written =>
        obtain ⟨text, _, rfl⟩ := map_eq_ok.1 written
        obtain ⟨below, chained, rfl⟩ := map_eq_ok.1 ended
        intro impact member
        rcases List.mem_append.1 member with here | inner
        · exact ⟨passage, holds_self _, here⟩
        · obtain ⟨node, among, source, held, brought⟩ := impacts_of_tellChain chained impact inner
          exact ⟨source, holds_of_mem among held, brought⟩

theorem impacts_of_tellChain : ∀ {told : Bool} {nodes : List Node} {harvest : Harvest},
    (tellChain has counts told nodes).2 = .ok harvest →
      ∀ impact ∈ harvest.impacts,
        ∃ node ∈ nodes, ∃ passage, node.Holds passage ∧ impact ∈ passage.impacts
  | _, [], harvest, ended => by
      cases ended
      simp
  | told, node :: rest, harvest, ended => by
      have later {told : Bool} {harvest : Harvest}
          (ended : (tellChain has counts told rest).2 = .ok harvest) (impact : Impact)
          (member : impact ∈ harvest.impacts) :
          ∃ one ∈ node :: rest, ∃ passage, one.Holds passage ∧ impact ∈ passage.impacts := by
        obtain ⟨one, among, brought⟩ := impacts_of_tellChain ended impact member
        exact ⟨one, List.mem_cons_of_mem _ among, brought⟩
      rw [tellChain] at ended
      split at ended
      · exact later ended
      · split at ended
        next => cases ended
        next => exact later ended
        next =>
          split at ended
          next => cases ended
          next after first told =>
            obtain ⟨others, chained, rfl⟩ := map_eq_ok.1 ended
            intro impact member
            rcases List.mem_append.1 member with here | there
            · exact ⟨node, List.mem_cons_self, impacts_of_tell (by rw [told]) impact here⟩
            · exact later chained impact there

end

/-! ### Why a telling fails -/

mutual

/-- A telling fails at a reference of a passage below the node, or at a passage that was told too
often; such a passage is still there afterwards, since its telling was not counted. -/
theorem tell_error : ∀ {node : Node} {error : EvaluationError},
    (tell has counts node).2 = .error error →
      (∃ passage, node.Holds passage ∧ passage.isAvailable has = .error error) ∨
      (error.isTold = false ∧
        ∃ passage, (tell has counts node).1.Holds passage ∧ passage.Overtold)
  | ⟨passage, descriptors⟩, error, failed => by
      rw [tell] at failed ⊢
      split at failed
      next fault unwritten =>
        cases failed
        obtain ⟨untold, overtold⟩ := Passage.lead_error (map_eq_error.1 unwritten)
        exact .inr ⟨untold, passage, holds_self _, overtold⟩
      next own written =>
        rcases tellChain_error (map_eq_error.1 failed) with below | ⟨untold, below⟩
        · obtain ⟨node, among, source, held, doubtful⟩ := below
          exact .inl ⟨source, holds_of_mem among held, doubtful⟩
        · obtain ⟨node, among, source, held, overtold⟩ := below
          exact .inr ⟨untold, source, holds_of_mem among held, overtold⟩

theorem tellChain_error : ∀ {told : Bool} {nodes : List Node} {error : EvaluationError},
    (tellChain has counts told nodes).2 = .error error →
      (∃ node ∈ nodes, ∃ passage, node.Holds passage ∧ passage.isAvailable has = .error error) ∨
      (error.isTold = false ∧
        ∃ node ∈ (tellChain has counts told nodes).1,
          ∃ passage, node.Holds passage ∧ passage.Overtold)
  | _, [], error, failed => by cases failed
  | told, node :: rest, error, failed => by
      have later {told : Bool} (failed : (tellChain has counts told rest).2 = .error error)
          (first : Node) :
          (∃ one ∈ node :: rest, ∃ passage,
            one.Holds passage ∧ passage.isAvailable has = .error error) ∨
          (error.isTold = false ∧ ∃ one ∈ first :: (tellChain has counts told rest).1,
            ∃ passage, one.Holds passage ∧ passage.Overtold) := by
        rcases tellChain_error failed with ⟨one, among, doubtful⟩ | ⟨untold, one, among, overtold⟩
        · exact .inl ⟨one, List.mem_cons_of_mem _ among, doubtful⟩
        · exact .inr ⟨untold, one, List.mem_cons_of_mem _ among, overtold⟩
      rw [tellChain] at failed ⊢
      split at failed
      next skipped =>
        rw [if_pos skipped]
        exact later failed node
      next considered =>
        rw [if_neg considered]
        split at failed
        next fault doubtful =>
          cases failed
          exact .inl ⟨node, List.mem_cons_self, node.passage, holds_self _, doubtful⟩
        next unavailable => exact later failed node
        next available =>
          split at failed
          next after fault stopped =>
            cases failed
            have outcome : (tell has counts node).2 = .error error := by rw [stopped]
            have reason := tell_error outcome
            rw [stopped] at reason
            rcases reason with ⟨passage, held, doubtful⟩ | ⟨untold, passage, held, overtold⟩
            · exact .inl ⟨node, List.mem_cons_self, passage, held, doubtful⟩
            · exact .inr ⟨untold, after, List.mem_cons_self, passage, held, overtold⟩
          next after harvest _ => exact later (map_eq_error.1 failed) after

end

/-! ### The node that was changed -/

theorem descriptor?_append (path below : List Nat) (node : Node) :
    node.descriptor? (path ++ below) = (node.descriptor? path).bind (descriptor? below) := by
  induction path generalizing node with
  | nil => rfl
  | cons position path ih =>
      simp only [List.cons_append, descriptor?]
      cases node.descriptors[position]? with
      | none => rfl
      | some inner => exact ih inner

theorem descriptor?_modify {change : Node → Node} {path : List Nat} {node inner : Node}
    (found : node.descriptor? path = some inner) :
    (node.modify change path).descriptor? path = some (change inner) := by
  induction path generalizing node with
  | nil =>
      cases found
      rfl
  | cons position path ih =>
      simp only [descriptor?] at found
      split at found
      next child placed => simp [modify, descriptor?, placed, ih found]
      next => cases found

end Node

theorem Entity.node?_modifyNode (change : Node → Node) (entity : Entity) (slot : Slot) :
    (entity.modifyNode change slot).node? slot = (entity.node? slot).map change := by
  cases slot with
  | body => rfl
  | interaction position =>
      unfold modifyNode Entity.node? interactions
      cases entity.place? with
      | none => rfl
      | some place => simp [Function.comp_def]
  | combination position => simp [modifyNode, Entity.node?, Function.comp_def]

/-- The path that leads further down. -/
abbrev NodePath.down (path : NodePath) (below : List Nat) : NodePath :=
  { path with below := path.below ++ below }

namespace World

variable {world : World} {path : NodePath} {counts : Bool}

theorem node?_down (world : World) (path : NodePath) (below : List Nat) :
    world.node? (path.down below) = (world.node? path).bind (Node.descriptor? below) := by
  simp only [node?, Option.bind_eq_bind, Option.bind_assoc, Node.descriptor?_append]

/-- What is found below a path after the node there was changed. -/
theorem node?_modifyNode {change : Node → Node} {node : Node} (found : world.node? path = some node)
    (below : List Nat) :
    (world.modifyNode change path).node? (path.down below) = (change node).descriptor? below := by
  obtain ⟨entity, known, part⟩ := Option.bind_eq_some_iff.1 found
  obtain ⟨top, placed, inner⟩ := Option.bind_eq_some_iff.1 part
  unfold entity? at known
  have here : (world.modifyNode change path).node? path = some (change node) := by
    simp [node?, entity?, modifyNode, known, Entity.node?_modifyNode, placed,
      Node.descriptor?_modify inner]
  rw [node?_down, here]
  rfl

/-! ### Evaluation -/

/-- Some passage of the world was told so often that the number cannot be written before it. -/
def Overtold (world : World) : Prop :=
  ∃ path node, world.node? path = some node ∧ node.passage.Overtold

/-- How an error comes about in a world with a plan: what is told to the player needs a reference that
the plan does not resolve, and anything else is a number that cannot be written. -/
def Explains (plan world : World) (error : EvaluationError) : Prop :=
  (error.isTold = true ∧ ¬ plan.Resolved) ∨ (error.isTold = false ∧ world.Overtold)

/-- The passages below the node at a path are passages of the world. -/
theorem node?_of_holds {node : Node} {passage : Passage} (found : world.node? path = some node)
    (held : node.Holds passage) : ∃ path inner, world.node? path = some inner ∧
      inner.passage = passage := by
  obtain ⟨below, inner, placed, same⟩ := held
  refine ⟨path.down below, inner, ?_, same⟩
  rw [node?_down, found]
  exact placed

theorem plan_collect (world : World) (path : NodePath) (counts : Bool) :
    (world.collect path counts).1.plan = world.plan := by
  unfold collect
  split
  · rfl
  · rfl
  · rfl
  next node found _ =>
    apply plan_modifyNode
    intro inner same
    cases found.symm.trans same
    exact Node.plan_tell _ counts node

theorem focus_collect (world : World) (path : NodePath) (counts : Bool) :
    (world.collect path counts).1.focus = world.focus := by
  unfold collect
  split <;> rfl

/-- Every impact that a telling brings is one of a passage of the world. -/
theorem impacts_of_collect {harvest : Harvest}
    (ended : (world.collect path counts).2 = .ok harvest) :
    ∀ impact ∈ harvest.impacts,
      ∃ path node, world.node? path = some node ∧ impact ∈ node.passage.impacts := by
  unfold collect at ended
  split at ended
  · cases ended
    simp
  · cases ended
    simp
  · cases ended
  next node found _ =>
    intro impact member
    obtain ⟨passage, held, brought⟩ := Node.impacts_of_tell ended impact member
    obtain ⟨path, inner, placed, rfl⟩ := node?_of_holds found held
    exact ⟨path, inner, placed, brought⟩

theorem collect_error {error : EvaluationError}
    (failed : (world.collect path counts).2 = .error error) :
    Explains world (world.collect path counts).1 error := by
  unfold collect at failed ⊢
  split at failed
  · cases failed
  · cases failed
  next doubtful _ =>
    cases failed
    exact .inl (isAvailable_error doubtful)
  next node found _ =>
    rcases Node.tell_error failed with ⟨passage, held, doubtful⟩ | ⟨untold, passage, held, overtold⟩
    · obtain ⟨path, inner, placed, rfl⟩ := node?_of_holds found held
      obtain ⟨requirement, present, reference, member, asked⟩ := Passage.isAvailable_error doubtful
      obtain ⟨told, wrong⟩ := hasFact_error asked
      refine .inl ⟨told, ?_⟩
      intro resolved
      exact wrong ((resolved path inner placed).requirement requirement present reference member)
    · obtain ⟨below, inner, placed, rfl⟩ := held
      refine .inr ⟨untold, path.down below, inner, ?_, overtold⟩
      rw [node?_modifyNode found]
      exact placed

end World

end Narrative
