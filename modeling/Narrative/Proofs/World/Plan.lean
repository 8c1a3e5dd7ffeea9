/-
Module: Narrative.Proofs.World.Plan
Purpose: What play leaves alone. Play changes tags, numbers of tellings, the focus and the bus. The
  plan of a world is what remains without them: keys, places, requirements, impacts and owners are
  read off it, so whatever keeps the plan keeps them all.
Main exports: World.plan, World.node?_plan, World.resolve?_plan, World.checkImpact_plan,
  World.plan_setTags, World.plan_modifyNode
-/
import Narrative.World.Change
import Narrative.World.Validate

namespace Narrative

/-! ### Plans of passages and nodes -/

/-- The passage as if it had never been told. -/
def Passage.plan (passage : Passage) : Passage := { passage with count := .number 0 }

theorem Passage.plan_told (passage : Passage) (counts : Bool) :
    (passage.told counts).plan = passage.plan := by
  cases counts <;> rfl

namespace Node

mutual

/-- The node as if none of its passages had ever been told. -/
def plan : Node → Node
  | ⟨passage, descriptors⟩ => ⟨passage.plan, planAll descriptors⟩

/-- The plans of nodes. -/
def planAll : List Node → List Node
  | [] => []
  | node :: rest => plan node :: planAll rest

end

theorem planAll_eq_map (nodes : List Node) : planAll nodes = nodes.map plan := by
  induction nodes with
  | nil => rfl
  | cons node rest ih => rw [planAll, ih, List.map_cons]

@[simp] theorem passage_plan (node : Node) : node.plan.passage = node.passage.plan := by
  cases node
  rfl

@[simp] theorem descriptors_plan (node : Node) :
    node.plan.descriptors = node.descriptors.map plan := by
  cases node
  exact planAll_eq_map _

theorem plan_congr {node other : Node} (passage : node.passage.plan = other.passage.plan)
    (descriptors : node.descriptors.map plan = other.descriptors.map plan) :
    node.plan = other.plan := by
  cases node
  cases other
  simp only [plan, planAll_eq_map]
  exact congr (congrArg Node.mk passage) descriptors

@[simp] theorem descriptor?_plan (path : List Nat) (node : Node) :
    node.plan.descriptor? path = (node.descriptor? path).map plan := by
  induction path generalizing node with
  | nil => rfl
  | cons position path ih =>
      simp only [descriptor?, descriptors_plan, List.getElem?_map]
      cases node.descriptors[position]? with
      | none => rfl
      | some inner => exact ih inner

end Node

/-- Changing one entry of a list is not seen where the change is not. -/
theorem map_modify_of_unseen {α β : Type} {see : α → β} {change : α → α} {entries : List α}
    {position : Nat}
    (unseen : ∀ entry, entries[position]? = some entry → see (change entry) = see entry) :
    (entries.modify position change).map see = entries.map see := by
  apply List.ext_getElem?
  intro index
  rw [List.getElem?_map, List.getElem?_map, List.getElem?_modify]
  by_cases here : position = index
  · subst here
    cases found : entries[position]? with
    | none => rfl
    | some entry => simp [unseen entry found]
  · simp [here]

/-- A change that keeps the plan of the node at a path keeps the plan of the whole node. -/
theorem Node.plan_modify {change : Node → Node} {path : List Nat} {node : Node}
    (keeps : ∀ inner, node.descriptor? path = some inner → (change inner).plan = inner.plan) :
    (node.modify change path).plan = node.plan := by
  induction path generalizing node with
  | nil => exact keeps node rfl
  | cons position path ih =>
      apply plan_congr
      · rfl
      · apply map_modify_of_unseen
        intro entry found
        apply ih
        intro inner below
        apply keeps
        simpa [descriptor?, found] using below

/-! ### Plans of entities -/

/-- The interaction as if it had never been told of. -/
def Interaction.plan (interaction : Interaction) : Interaction :=
  { interaction with node := interaction.node.plan }

/-- The combination as if it had never been told of. -/
def Combination.plan (combination : Combination) : Combination :=
  { combination with node := combination.node.plan }

/-- The place with the plans of its interactions. -/
def Place.plan (place : Place) : Place :=
  { place with interactions := place.interactions.map Interaction.plan }

namespace Entity

/-- The entity without tags, as if it had never been told of. -/
def plan (entity : Entity) : Entity :=
  { entity with
    tags := .empty
    node := entity.node.plan
    combinations := entity.combinations.map Combination.plan
    place? := entity.place?.map Place.plan }

@[simp] theorem lookupKey?_plan (entity : Entity) : entity.plan.lookupKey? = entity.lookupKey? := rfl

@[simp] theorem isLocation_plan (entity : Entity) : entity.plan.isLocation = entity.isLocation := by
  simp [isLocation, plan]

@[simp] theorem interactions_plan (entity : Entity) :
    entity.plan.interactions = entity.interactions.map Interaction.plan := by
  unfold interactions plan
  cases entity.place? <;> rfl

@[simp] theorem node?_plan (entity : Entity) (slot : Slot) :
    entity.plan.node? slot = (entity.node? slot).map Node.plan := by
  cases slot with
  | body => rfl
  | interaction position => simp [node?, Function.comp_def, Interaction.plan]
  | combination position => simp [node?, plan, Function.comp_def, Combination.plan]

/-- A change that keeps the plan of a part keeps the plan of the entity. -/
theorem plan_modifyNode {change : Node → Node} {slot : Slot} {entity : Entity}
    (keeps : ∀ node, entity.node? slot = some node → (change node).plan = node.plan) :
    (entity.modifyNode change slot).plan = entity.plan := by
  cases slot with
  | body => simp [modifyNode, plan, keeps entity.node rfl]
  | interaction position =>
      cases placed : entity.place? with
      | none => simp [modifyNode, plan, placed]
      | some place =>
          simp only [modifyNode, plan, placed, Option.map_some, Place.plan]
          rw [map_modify_of_unseen]
          intro interaction found
          have kept := keeps interaction.node (by simp [node?, interactions, placed, found])
          simp [Interaction.plan, kept]
  | combination position =>
      simp only [modifyNode, plan]
      rw [map_modify_of_unseen]
      intro combination found
      have kept := keeps combination.node (by simp [node?, found])
      simp [Combination.plan, kept]

end Entity

/-! ### Plans of worlds -/

namespace World

/-- What play never changes of a world. -/
def plan (world : World) : World :=
  { entities := world.entities.map Entity.plan, player := .empty, inventory := .empty, focus := 0 }

@[simp] theorem entity?_plan (world : World) (number : Nat) :
    world.plan.entity? number = (world.entity? number).map Entity.plan := by
  simp [entity?, plan]

@[simp] theorem resolve?_plan (world : World) (key : String) :
    world.plan.resolve? key = world.resolve? key := by
  simp only [resolve?, plan, List.findIdx?_map]
  rfl

@[simp] theorem resolveLocation?_plan (world : World) (key : String) :
    world.plan.resolveLocation? key = world.resolveLocation? key := by
  simp [resolveLocation?, Option.any_map]

@[simp] theorem resolveItem?_plan (world : World) (key : String) :
    world.plan.resolveItem? key = world.resolveItem? key := by
  simp [resolveItem?, Option.any_map]

@[simp] theorem place?_plan (world : World) (number : Nat) :
    world.plan.place? number = (world.place? number).map Place.plan := by
  simp only [place?, entity?_plan]
  cases world.entity? number <;> rfl

@[simp] theorem parent?_plan (world : World) (number : Nat) :
    world.plan.parent? number = world.parent? number := by
  simp only [parent?, place?_plan]
  cases world.place? number <;> rfl

@[simp] theorem inside_plan (world : World) (number : Nat) :
    world.plan.inside number = world.inside number := by
  simp only [inside, place?_plan]
  cases world.place? number <;> rfl

@[simp] theorem node?_plan (world : World) (path : NodePath) :
    world.plan.node? path = (world.node? path).map Node.plan := by
  simp only [node?, entity?_plan, Option.bind_eq_bind]
  cases world.entity? path.entity with
  | none => rfl
  | some entity =>
      simp only [Option.map_some, Option.bind_some, Entity.node?_plan]
      cases entity.node? path.slot with
      | none => rfl
      | some node => simp

@[simp] theorem checkReference_plan (world : World) (reference : Reference) :
    world.plan.checkReference reference = world.checkReference reference := by
  cases reference <;> simp [checkReference]

@[simp] theorem checkImpact_plan (world : World) (impact : Impact) :
    world.plan.checkImpact impact = world.checkImpact impact := by
  cases impact with
  | manipulate manipulation reference => simp [checkImpact]
  | focus key => simp [checkImpact]
  | event reference => cases reference <;> simp [checkImpact]

/-! ### Changes that keep the plan -/

theorem plan_setTags (world : World) (tags : TagSet) (holder : Holder) :
    (world.setTags tags holder).plan = world.plan := by
  cases holder with
  | player => rfl
  | inventory => rfl
  | entity number =>
      simp only [setTags, plan]
      rw [map_modify_of_unseen]
      intro entity _
      rfl

/-- A change that keeps the plan of the node at a path keeps the plan of the world. -/
theorem plan_modifyNode {change : Node → Node} {path : NodePath} {world : World}
    (keeps : ∀ node, world.node? path = some node → (change node).plan = node.plan) :
    (world.modifyNode change path).plan = world.plan := by
  simp only [modifyNode, plan]
  rw [map_modify_of_unseen]
  intro entity found
  apply Entity.plan_modifyNode
  intro node told
  apply Node.plan_modify
  intro inner below
  apply keeps
  simp [node?, entity?, found, told, below]

end World

end Narrative
