/-
Module: Narrative.Proofs.World.Visits
Purpose: Walks in a world: the passages that the evaluation of a node tells, wherever they lie. Each of
  them is told once more afterwards if the walk counts, and no other passage is.
Main exports: World.walked, World.visits, World.tells, World.outcome_collect,
  World.passage_collect, World.brings_visits
-/
import Narrative.Proofs.Passage.Walk
import Narrative.Proofs.World.Stable

namespace Narrative

theorem NodePath.down_injective {path : NodePath} {below other : List Nat}
    (same : path.down below = path.down other) : below = other :=
  List.append_cancel_left (congrArg NodePath.below same)

/-! ### What a changed node leaves alone -/

/-- A change of the node at a path leaves the passages alone that are not below it. -/
theorem Node.passage_modify_of_ne {change : Node → Node} : ∀ {path other : List Nat} {node : Node},
    (∀ below, other ≠ path ++ below) →
      ((node.modify change path).descriptor? other).map (·.passage) =
        (node.descriptor? other).map (·.passage)
  | [], other, node, elsewhere => absurd rfl (elsewhere other)
  | position :: path, [], node, elsewhere => rfl
  | position :: path, place :: other, node, elsewhere => by
      simp only [descriptor?_cons, modify, List.getElem?_modify]
      by_cases here : position = place
      · subst here
        cases placed : node.descriptors[position]? with
        | none => rfl
        | some inner =>
            have elsewhere (below : List Nat) : other ≠ path ++ below := by
              rintro rfl
              exact elsewhere below rfl
            simpa using passage_modify_of_ne elsewhere
      · simp [here]

namespace Entity

theorem node?_modifyNode_of_ne {change : Node → Node} {slot other : Slot} (entity : Entity)
    (elsewhere : slot ≠ other) : (entity.modifyNode change slot).node? other = entity.node? other := by
  cases slot with
  | body =>
      cases other with
      | body => exact absurd rfl elsewhere
      | interaction | combination => rfl
  | interaction position =>
      cases other with
      | body | combination => rfl
      | interaction place =>
          have away : position ≠ place := fun same => elsewhere (congrArg Slot.interaction same)
          simp only [modifyNode, Entity.node?, interactions]
          cases entity.place? with
          | none => rfl
          | some located => simp [away]
  | combination position =>
      cases other with
      | body | interaction => rfl
      | combination place =>
          have away : position ≠ place := fun same => elsewhere (congrArg Slot.combination same)
          simp [modifyNode, Entity.node?, away]

end Entity

namespace World

variable {world : World} {top path : NodePath} {counts : Bool}

theorem passage_modifyNode_of_ne {change : Node → Node} (elsewhere : ∀ below, path ≠ top.down below) :
    ((world.modifyNode change top).node? path).map (·.passage) =
      (world.node? path).map (·.passage) := by
  unfold node? entity? modifyNode
  simp only [Option.bind_eq_bind, List.getElem?_modify]
  cases known : world.entities[path.entity]? with
  | none => rfl
  | some entity =>
      by_cases sameEntity : top.entity = path.entity
      · by_cases sameSlot : top.slot = path.slot
        · have apart (below : List Nat) : path.below ≠ top.below ++ below := by
            intro same
            apply elsewhere below
            cases path
            cases top
            simp_all
          cases placed : entity.node? path.slot with
          | none => simp [sameEntity, sameSlot, Entity.node?_modifyNode, placed]
          | some node =>
              simpa [sameEntity, sameSlot, Entity.node?_modifyNode, placed] using
                Node.passage_modify_of_ne apart
        · simp [sameEntity, entity.node?_modifyNode_of_ne sameSlot]
      · simp [sameEntity]

/-! ### The walk that an evaluation makes -/

/-- Whether the node at a path is told wherever a walk starts there: that of a location that lies in
no other is. -/
def isAlways (world : World) (path : NodePath) : Bool :=
  path.isEntity && (world.entity? path.entity).any (·.isRoot)

/-- The facts as the node at a path asks for them. -/
def factsAt (world : World) (path : NodePath) : Reference → Except EvaluationError Bool :=
  world.hasFact (world.sourceOf path)

theorem isAvailable_of_node? {node : Node} (found : world.node? top = some node) :
    world.isAvailable top = node.starts (world.isAlways top) (world.factsAt top) := by
  unfold isAvailable isAlways Node.starts
  rw [found]
  rfl

/-- An evaluation brings what the walk over the node brings. -/
theorem outcome_collect {node : Node} (found : world.node? top = some node) :
    (world.collect top counts).2 =
      (node.walk (world.isAlways top) (world.factsAt top) counts).2 := by
  unfold collect Node.walk
  rw [← isAvailable_of_node? found, found]
  cases world.isAvailable top with
  | error error => rfl
  | ok told => cases told <;> rfl

/-- An evaluation leaves the node as the walk over it does. -/
theorem node?_collect {node : Node} (found : world.node? top = some node) (below : List Nat) :
    (world.collect top counts).1.node? (top.down below) =
      (node.walk (world.isAlways top) (world.factsAt top) counts).1.descriptor? below := by
  have same : world.node? (top.down below) = node.descriptor? below := by
    rw [node?_down, found]
    rfl
  unfold collect Node.walk
  rw [← isAvailable_of_node? found, found]
  cases world.isAvailable top with
  | error error => exact same
  | ok told =>
      cases told with
      | false => exact same
      | true => exact node?_modifyNode found below

theorem passage_collect_of_ne (elsewhere : ∀ below, path ≠ top.down below) :
    ((world.collect top counts).1.node? path).map (·.passage) =
      (world.node? path).map (·.passage) := by
  unfold collect
  split
  · rfl
  · rfl
  · rfl
  · exact passage_modifyNode_of_ne elsewhere

/-! ### The passages that a walk tells -/

/-- The passages that are told in a walk, with the ways down from where it starts. -/
def walked (world : World) (top : NodePath) : Tellings :=
  match world.node? top with
  | some node => node.walked (world.isAlways top) (world.factsAt top)
  | none => []

/-- The passages that are told in a walk, with their paths. -/
def visits (world : World) (top : NodePath) : List (NodePath × Passage) :=
  (world.walked top).map fun (below, passage) => (top.down below, passage)

/-- Whether a walk tells the passage at a path. -/
def tells (world : World) (top path : NodePath) : Bool := (world.visits top).any (·.1 = path)

theorem tells_down (world : World) (top : NodePath) (below : List Nat) :
    world.tells top (top.down below) = (world.walked top).includes below := by
  unfold tells visits Tellings.includes
  rw [List.any_map]
  congr 1
  funext entry
  exact decide_eq_decide.2 ⟨NodePath.down_injective, congrArg top.down⟩

theorem tells_of_ne (elsewhere : ∀ below, path ≠ top.down below) :
    world.tells top path = false := by
  simp only [tells, visits, List.any_map, List.any_eq_false, Function.comp_apply,
    decide_eq_true_eq]
  intro entry _ same
  exact elsewhere entry.1 same.symm

/-- A passage that a walk tells is that of the node at its path, and it has not been told as often as
it may be, unless the walk starts there and always tells it. -/
theorem passage_of_mem_visits {passage : Passage} (member : (path, passage) ∈ world.visits top) :
    (∃ node, world.node? path = some node ∧ node.passage = passage) ∧
      (world.isAlways path ∨ passage.exhausted = false) := by
  obtain ⟨⟨below, _⟩, inside, same⟩ := List.mem_map.1 member
  cases same
  unfold walked at inside
  split at inside
  next node found =>
    unfold Node.walked at inside
    split at inside
    next started =>
      obtain ⟨fresh, inner, placed, rfl⟩ := Node.passage_of_mem_visits inside
      refine ⟨⟨inner, by rw [node?_down, found]; exact placed, rfl⟩, ?_⟩
      rcases fresh with rfl | fresh
      · cases placed
        unfold Node.starts at started
        split at started
        next always => exact .inl (by simpa [NodePath.down] using always)
        next => exact .inr (Passage.not_exhausted_of_isAvailable started)
      · exact .inr fresh
    next => cases inside
  next => cases inside

/-- An evaluation counts one telling of each passage that its walk tells, and none of any other. -/
theorem passage_collect (world : World) (top : NodePath) (counts : Bool) (path : NodePath) :
    ((world.collect top counts).1.node? path).map (·.passage) =
      (world.node? path).map fun node =>
        node.passage.told (counts && world.tells top path) := by
  by_cases inside : ∃ below, path = top.down below
  · obtain ⟨below, rfl⟩ := inside
    rw [tells_down, walked]
    cases found : world.node? top with
    | none => simp [collect, found, node?_down]
    | some node =>
        rw [node?_collect found, Node.passage_walk, node?_down, found]
        rfl
  · have elsewhere (below : List Nat) : path ≠ top.down below := fun same => inside ⟨below, same⟩
    rw [passage_collect_of_ne elsewhere, tells_of_ne elsewhere]
    simp

/-- What an evaluation brings is what the passages bring that its walk tells: the text of each with
the number of its earlier tellings in front, and its impacts. -/
theorem brings_visits {harvest : Harvest} (ended : (world.collect top counts).2 = .ok harvest) :
    (world.visits top).map (·.2.lead) = harvest.parts.map .ok ∧
      harvest.impacts = (world.visits top).flatMap (·.2.impacts) := by
  have brings : (world.walked top).Bring harvest := by
    unfold walked
    cases found : world.node? top with
    | none =>
        simp only [collect, found] at ended
        cases ended
        exact ⟨rfl, rfl⟩
    | some node =>
        rw [outcome_collect found] at ended
        exact Node.brings_walked ended
  constructor
  · rw [← brings.parts]
    simp [visits]
  · rw [brings.impacts]
    simp [visits, List.flatMap_map]

end World

end Narrative
