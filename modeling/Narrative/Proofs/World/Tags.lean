/-
Module: Narrative.Proofs.World.Tags
Purpose: Where the tags of a world come from. They are read from the lists of its definition, where
  blanks are refused, or an impact of a passage brings them, where nothing refuses blanks.
Main exports: World.Declares, World.Brings, World.Tagged, World.guarded_tagged,
  World.Tagged.performAll, Model.World.tagged_of_build
-/
import Narrative.Proofs.World.Acts
import Narrative.Proofs.World.Faithful

namespace Narrative

namespace World

variable {plan world : World}

/-! ### Impacts of a world -/

/-- The impact is one of a passage of the world. -/
def Declares (world : World) (impact : Impact) : Prop :=
  ∃ path node, world.node? path = some node ∧ impact ∈ node.passage.impacts

/-- A passage of the world adds the tag to something, or toggles it there. -/
def Brings (world : World) (tag : String) : Prop :=
  ∃ manipulation reference, world.Declares (.manipulate manipulation reference) ∧
    manipulation ≠ .remove ∧ reference.property = tag

@[simp] theorem declares_plan (world : World) (impact : Impact) :
    world.plan.Declares impact ↔ world.Declares impact := by
  constructor
  · rintro ⟨path, node, planned, member⟩
    rw [node?_plan] at planned
    obtain ⟨inner, found, rfl⟩ := Option.map_eq_some_iff.1 planned
    exact ⟨path, inner, found, by simpa [Passage.plan] using member⟩
  · rintro ⟨path, node, found, member⟩
    exact ⟨path, node.plan, by simp [found], by simpa [Passage.plan] using member⟩

theorem declares_of_plan_eq (same : world.plan = plan) : plan.Declares = world.Declares := by
  funext impact
  rw [← same, declares_plan]

theorem brings_of_plan_eq (same : world.plan = plan) : plan.Brings = world.Brings := by
  funext tag
  rw [Brings, declares_of_plan_eq same, Brings]

/-! ### What holders have -/

/-- Setting the tags of one holder sets no others. -/
theorem tagsOf_setTags (world : World) (tags : TagSet) (holder other : Holder) :
    (world.setTags tags holder).tagsOf other = tags ∨
      (world.setTags tags holder).tagsOf other = world.tagsOf other := by
  cases holder with
  | player => cases other <;> simp [setTags, tagsOf, entity?]
  | inventory => cases other <;> simp [setTags, tagsOf, entity?]
  | entity number =>
      cases other with
      | player | inventory => exact .inr rfl
      | entity another =>
          simp only [setTags, tagsOf, entity?, List.getElem?_modify]
          cases world.entities[another]? with
          | none => exact .inr rfl
          | some entity => by_cases here : number = another <;> simp [here]

theorem tagsOf_modifyNode (world : World) (change : Node → Node) (path : NodePath) (holder : Holder) :
    (world.modifyNode change path).tagsOf holder = world.tagsOf holder := by
  cases holder with
  | player | inventory => rfl
  | entity number =>
      simp only [modifyNode, tagsOf, entity?, List.getElem?_modify]
      cases world.entities[number]? with
      | none => rfl
      | some entity =>
          have same : (entity.modifyNode (Node.modify change path.below) path.slot).tags =
              entity.tags := by
            cases path.slot <;> rfl
          by_cases here : path.entity = number <;> simp [here, same]

theorem tagsOf_collect (world : World) (top : NodePath) (counts : Bool) (holder : Holder) :
    (world.collect top counts).1.tagsOf holder = world.tagsOf holder := by
  unfold collect
  split
  · rfl
  · rfl
  · rfl
  · exact tagsOf_modifyNode world _ top holder

/-! ### The invariant -/

/-- Every tag of a world with the plan can be one, and it has no blank unless an impact of the plan
brings it. All who listen apply impacts of the plan only. -/
structure Tagged (plan world : World) : Prop where
  plan_eq : world.plan = plan
  listeners : world.bus.Within plan.Declares
  tags : ∀ holder, ∀ tag ∈ world.tagsOf holder, IsTag tag ∧ (Unbroken tag ∨ plan.Brings tag)

/-- What impacts of the plan add or remove can be a tag. -/
def NamesTags (plan : World) : Prop :=
  ∀ manipulation reference, plan.Declares (.manipulate manipulation reference) →
    IsTag reference.property

theorem guarded_tagged (names : plan.NamesTags) :
    Guarded plan.Declares (fun _ => True) (Tagged plan) where
  listeners tagged := tagged.listeners
  turn {world holder manipulation reference tags} tagged declared applied := by
    refine ⟨(plan_setTags _ _ _).trans tagged.plan_eq, ?_, ?_⟩
    · cases holder <;> exact tagged.listeners
    · intro other tag member
      rcases tagsOf_setTags world tags holder other with new | old
      · rw [new] at member
        rcases TagSet.mem_apply applied tag member with before | ⟨rfl, brought⟩
        · exact tagged.tags holder tag before
        · exact ⟨names _ _ declared, .inr ⟨manipulation, reference, declared, brought, rfl⟩⟩
      · rw [old] at member
        exact tagged.tags other tag member
  fits _ _ := trivial
  focus _ tagged := ⟨tagged.plan_eq, tagged.listeners, tagged.tags⟩
  shift _ tagged := ⟨tagged.plan_eq, tagged.listeners, tagged.tags⟩
  note _ _ tagged := ⟨tagged.plan_eq, tagged.listeners, tagged.tags⟩
  record _ tagged := ⟨tagged.plan_eq, tagged.listeners, tagged.tags⟩

/-- The act applies impacts of some kind only. What it tells applies those of passages besides. -/
def Act.Within (Allowed : Impact → Prop) : Act → Prop
  | .apply _ impact => Allowed impact
  | .evaluate .. | .setFocus _ | .receive | .note _ => True

namespace Tagged

theorem collect (tagged : Tagged plan world) (top : NodePath) (counts : Bool) :
    Tagged plan (world.collect top counts).1 := by
  refine ⟨(plan_collect world top counts).trans tagged.plan_eq, ?_, ?_⟩
  · unfold World.collect
    split <;> exact tagged.listeners
  · intro holder tag member
    rw [tagsOf_collect] at member
    exact tagged.tags holder tag member

theorem evaluate (names : plan.NamesTags) (tagged : Tagged plan world) (top : NodePath)
    (counts : Bool) : Tagged plan (world.evaluate top counts).1 := by
  apply (guarded_tagged names).evaluate (tagged.collect top counts)
  intro harvest ended impact member
  rw [declares_of_plan_eq tagged.plan_eq]
  exact impacts_of_collect ended impact member

theorem perform (names : plan.NamesTags) (tagged : Tagged plan world) {act : Act}
    (within : act.Within plan.Declares) : Tagged plan (world.perform act) := by
  cases act with
  | evaluate top counts => exact tagged.evaluate names top counts
  | apply source impact =>
      rw [World.perform]
      split
      next after applied => exact (guarded_tagged names).applyImpact tagged within applied
      next => exact tagged
  | setFocus location => exact (guarded_tagged names).setFocus tagged trivial
  | receive | note => exact ⟨tagged.plan_eq, tagged.listeners, tagged.tags⟩

theorem performAll (names : plan.NamesTags) (tagged : Tagged plan world) {acts : List Act}
    (within : ∀ act ∈ acts, act.Within plan.Declares) : Tagged plan (world.performAll acts) := by
  induction acts generalizing world with
  | nil => exact tagged
  | cons act acts ih =>
      obtain ⟨first, others⟩ := List.forall_mem_cons.1 within
      exact ih (tagged.perform names first) others

end Tagged

end World

namespace Model

/-! ### Passages that were read -/

/-- Every passage below the image of a descriptor is the image of one that was written. -/
theorem Descriptor.IsImage.exists_passage {owner : Nat} {descriptor : Descriptor} {node : Node}
    (image : Descriptor.IsImage owner descriptor node) {path : List Nat} {inner : Node}
    (found : node.descriptor? path = some inner) :
    ∃ (written : Passage) (correlation : Correlation),
      written.IsImage owner correlation inner.passage := by
  induction path generalizing descriptor node with
  | nil =>
      cases found
      cases image with
      | intro own _ => exact ⟨_, _, own⟩
  | cons position path ih =>
      cases image with
      | intro _ below =>
          simp only [Node.descriptor?] at found
          split at found
          next child placed =>
            obtain ⟨source, _, related⟩ := exists_of_forall₂ below.flip placed
            exact ih related found
          next => cases found

/-- Every node of an entity is the image of a descriptor if its own node, its interactions and its
combinations are images. -/
theorem exists_descriptor {entity : Entity} {owner : Nat} {descriptor : Descriptor}
    {interactions : List Interaction} {combinations : List Combination}
    (body : Descriptor.IsImage owner descriptor entity.node)
    (acts : List.Forall₂ (Interaction.IsImage owner) interactions entity.interactions)
    (uses : List.Forall₂ (Combination.IsImage owner) combinations entity.combinations)
    {slot : Slot} {node : Node} (found : entity.node? slot = some node) :
    ∃ descriptor, Descriptor.IsImage owner descriptor node := by
  cases slot with
  | body =>
      cases found
      exact ⟨descriptor, body⟩
  | interaction position =>
      obtain ⟨interaction, placed, rfl⟩ := Option.map_eq_some_iff.1 found
      obtain ⟨source, _, image⟩ := exists_of_forall₂ acts.flip placed
      exact ⟨_, image.node⟩
  | combination position =>
      obtain ⟨combination, placed, rfl⟩ := Option.map_eq_some_iff.1 found
      obtain ⟨source, _, image⟩ := exists_of_forall₂ uses.flip placed
      exact ⟨_, image.node⟩

/-- Every passage of the image of a definition is the image of one that was written. -/
theorem World.IsImage.exists_passage {model : World} {world : Narrative.World}
    (image : model.IsImage world.entities) {path : NodePath} {node : Node}
    (found : world.node? path = some node) :
    ∃ (written : Passage) (owner : Nat) (correlation : Correlation),
      written.IsImage owner correlation node.passage := by
  obtain ⟨entity, known, part⟩ := Option.bind_eq_some_iff.1 found
  obtain ⟨top, placed, below⟩ := Option.bind_eq_some_iff.1 part
  have read : ∃ owner descriptor, Descriptor.IsImage owner descriptor top := by
    obtain ⟨locations, items, parts, location_images, item_images⟩ := image
    have member : entity ∈ locations ++ items := parts ▸ List.mem_of_getElem? known
    rcases List.mem_append.1 member with location | item
    · obtain ⟨position, there⟩ := List.mem_iff_getElem?.1 location
      obtain ⟨spot, _, image⟩ := exists_of_forall₂ location_images.flip there
      obtain ⟨place, lies, _, _, _, acts⟩ := image.place
      have same : entity.interactions = place.interactions := by simp [Entity.interactions, lies]
      exact ⟨_, exists_descriptor image.node (same ▸ acts) image.combinations placed⟩
    · obtain ⟨position, there⟩ := List.mem_iff_getElem?.1 item
      obtain ⟨entry, _, image⟩ := exists_of_forall₂ item_images.flip there
      have acts : List.Forall₂ (Interaction.IsImage entry.2) [] entity.interactions := by
        simp [Entity.interactions, image.place]
      exact ⟨_, exists_descriptor image.node acts image.combinations placed⟩
  obtain ⟨owner, descriptor, isImage⟩ := read
  obtain ⟨written, correlation, own⟩ := isImage.exists_passage below
  exact ⟨written, owner, correlation, own⟩

theorem World.IsImage.namesTags {model : World} {world : Narrative.World}
    (image : model.IsImage world.entities) : world.NamesTags := by
  rintro manipulation reference ⟨path, node, found, member⟩
  obtain ⟨written, owner, correlation, own⟩ := image.exists_passage found
  exact Impact.isTag_of_parseList own.impacts_read member

/-! ### Tags that were read -/

theorem isTag_of_buildTags {written : Option TagText} {tags : TagSet}
    (built : buildTags written = .ok tags) : ∀ tag ∈ tags, IsTag tag ∧ Unbroken tag :=
  TagSet.isTag_of_parse (mapError_eq_ok.1 built)

mutual

theorem Location.isTag_of_build : ∀ {parent? : Option Nat} {taken : List String} {number : Nat}
    {location : Location} {block : List Entity},
    Location.build parent? taken number location = .ok block →
      ∀ entity ∈ block, ∀ tag ∈ entity.tags, IsTag tag ∧ Unbroken tag
  | parent?, taken, number, ⟨_, _, _, _, _, _, locations, _, _⟩, block, built => by
      obtain ⟨entity, blocks, rfl, _, tags_built, _, inner⟩ := Location.head_isImage built
      dsimp only at inner
      rw [List.forall_mem_cons]
      constructor
      · exact isTag_of_buildTags tags_built
      · exact Location.isTag_of_buildAll inner

theorem Location.isTag_of_buildAll : ∀ {parent? : Option Nat} {taken : List String}
    {number : Nat} {locations : List Location} {blocks : List (List Entity)},
    Location.buildAll parent? taken number locations = .ok blocks →
      ∀ entity ∈ blocks.flatten, ∀ tag ∈ entity.tags, IsTag tag ∧ Unbroken tag
  | _, _, _, [], blocks, built => by
      cases built
      simp
  | parent?, taken, number, location :: rest, blocks, built => by
      rw [Location.buildAll] at built
      obtain ⟨first, first_built, built⟩ := bind_eq_ok.1 built
      obtain ⟨others, others_built, same⟩ := bind_eq_ok.1 built
      cases same
      rw [List.flatten_cons, List.forall_mem_append]
      exact ⟨Location.isTag_of_build first_built, Location.isTag_of_buildAll others_built⟩

end

theorem Item.isTag_of_build {taken : List String} {number : Nat} {item : Item} {entity : Entity}
    (built : Item.build taken number item = .ok entity) :
    ∀ tag ∈ entity.tags, IsTag tag ∧ Unbroken tag := by
  obtain ⟨tags, tags_built, built⟩ := bind_eq_ok.1 built
  obtain ⟨_, _, built⟩ := bind_eq_ok.1 built
  obtain ⟨node, _, built⟩ := bind_eq_ok.1 built
  obtain ⟨uses, _, same⟩ := bind_eq_ok.1 built
  cases same
  exact isTag_of_buildTags tags_built

theorem Item.isTag_of_buildAll {taken : List String} {number : Nat} {items : List Item}
    {entities : List Entity} (built : Item.buildAll taken number items = .ok entities) :
    ∀ entity ∈ entities, ∀ tag ∈ entity.tags, IsTag tag ∧ Unbroken tag := by
  induction items generalizing taken number entities with
  | nil =>
      cases built
      simp
  | cons item rest ih =>
      rw [Item.buildAll] at built
      obtain ⟨first, first_built, built⟩ := bind_eq_ok.1 built
      obtain ⟨others, others_built, same⟩ := bind_eq_ok.1 built
      cases same
      exact List.forall_mem_cons.2 ⟨Item.isTag_of_build first_built, ih others_built⟩

theorem World.isTag_of_entities {model : World} {entities : List Entity}
    (built : model.entities = .ok entities) :
    ∀ entity ∈ entities, ∀ tag ∈ entity.tags, IsTag tag ∧ Unbroken tag := by
  obtain ⟨blocks, blocks_built, built⟩ := bind_eq_ok.1 built
  obtain ⟨items, items_built, same⟩ := bind_eq_ok.1 built
  cases same
  rw [List.forall_mem_append]
  exact ⟨Location.isTag_of_buildAll blocks_built, Item.isTag_of_buildAll items_built⟩

/-- What listeners do when they are told of the start brings no other tags either, as long as they
apply impacts of the world only. -/
theorem World.tagged_of_build {model : World} {bus : Bus Handler} {world : Narrative.World}
    (built : model.build bus = .ok world) (within : bus.Within world.Declares) :
    world.plan.NamesTags ∧ World.Tagged world.plan world := by
  obtain ⟨begun, entities, player, inventory, rfl, _, _, rfl⟩ := build_cases built
  have plan : ((begun.emit (.focusChanged none begun.focus)).emit (.focusGained begun.focus)).plan =
      begun.plan := by
    have stable := World.stable_plan begun.plan
    exact stable.emit (stable.emit rfl _) _
  rw [← World.declares_of_plan_eq plan] at within
  rw [plan]
  have names : begun.plan.NamesTags := by
    rw [World.NamesTags, World.declares_of_plan_eq rfl]
    exact (World.isImage_of_entities entities).namesTags
  have tagged : World.Tagged begun.plan begun := by
    refine ⟨rfl, within, ?_⟩
    intro holder tag member
    have listed : IsTag tag ∧ Unbroken tag := by
      cases holder with
      | player => exact isTag_of_buildTags player tag member
      | inventory => exact isTag_of_buildTags inventory tag member
      | entity number =>
          simp only [World.tagsOf] at member
          cases known : begun.entity? number with
          | none =>
              rw [known] at member
              cases member
          | some entity =>
              rw [known] at member
              exact World.isTag_of_entities entities entity (List.mem_of_getElem? known) tag member
    exact ⟨listed.1, .inl listed.2⟩
  have guarded := World.guarded_tagged names
  exact ⟨names, guarded.emit (guarded.emit tagged _) _⟩

end Model

end Narrative
