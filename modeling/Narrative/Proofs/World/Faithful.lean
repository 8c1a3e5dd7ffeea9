/-
Module: Narrative.Proofs.World.Faithful
Purpose: A world that was built is faithful to its definition: its entities are images of what was
  written, in one order, keys lead to their entities, and the numbers by which entities mean each other
  are those of what they stand for.
Main exports: Model.World.Faithful, Model.World.IsImage.parent?_eq_some_iff,
  Model.World.faithful_of_isImage, Model.World.IsImage.of_untagged, Model.World.isFaithful_of_build
-/
import Narrative.Proofs.World.Keys

namespace Narrative

namespace Model

/-! ### Faithful worlds -/

/-- The world has what was written in its definition, and nothing else. -/
structure World.Faithful (model : World) (world : Narrative.World) : Prop where
  entities : model.IsImage world.entities
  placed : ∀ spot ∈ model.outline,
    ∃ entity, world.entity? spot.number = some entity ∧ spot.IsImage entity
  keyed : ∀ key number, world.resolve? key = some number ↔
    key ≠ "" ∧ ∃ entity, world.entity? number = some entity ∧ entity.key? = some key
  top : List.Forall₂ (fun number location => ⟨number, none, location⟩ ∈ model.outline)
    (Location.numbersFrom 0 model.locations) model.locations
  nested : ∀ spot ∈ model.outline,
    List.Forall₂ (fun inner location => ⟨inner, some spot.number, location⟩ ∈ model.outline)
      (world.inside spot.number) spot.location.locations
  linked : ∀ number inner, world.parent? inner = some number ↔ inner ∈ world.inside number
  inward : ∀ number inner, inner ∈ world.inside number → number < inner
  owned : ∀ path node, world.node? path = some node →
    node.passage.owner = path.entity ∧ world.sourceOf path = path.entity

/-! ### Places -/

theorem exists_of_forall₂ {α β : Type} {Related : α → β → Prop} {entries : List α}
    {images : List β} (related : List.Forall₂ Related entries images) {position : Nat} {entry : α}
    (found : entries[position]? = some entry) :
    ∃ image, images[position]? = some image ∧ Related entry image := by
  induction related generalizing position with
  | nil => cases found
  | @cons first image rest images here _ ih =>
      cases position with
      | zero =>
          cases found
          exact ⟨image, rfl, here⟩
      | succ position => exact ih found

namespace World.IsImage

variable {model : World} {world : Narrative.World}

/-- Every location of the outline has its image at its number. -/
theorem placed (image : model.IsImage world.entities) {spot : Spot} (member : spot ∈ model.outline) :
    ∃ entity, world.entity? spot.number = some entity ∧ spot.IsImage entity := by
  obtain ⟨locations, items, parts, images, _⟩ := image
  obtain ⟨entity, found, isImage⟩ :=
    exists_of_forall₂ images (Location.getElem?_of_mem_outline member)
  refine ⟨entity, ?_, isImage⟩
  rw [World.entity?, parts]
  exact List.getElem?_append_left (List.getElem?_eq_some_iff.1 found).1 ▸ found

/-- Every location of the world is the image of one in the outline. -/
theorem spot_of_place? (image : model.IsImage world.entities) {number : Nat} {place : Place}
    (placed : world.place? number = some place) :
    ∃ spot ∈ model.outline, spot.number = number ∧ place.parent? = spot.parent? ∧
      place.inside = spot.inside := by
  obtain ⟨entity, known, here⟩ := Option.bind_eq_some_iff.1 placed
  obtain ⟨locations, items, parts, images, item_images⟩ := image
  rw [World.entity?, parts] at known
  rcases Nat.lt_or_ge number locations.length with within | beyond
  · rw [List.getElem?_append_left within] at known
    have turned : List.Forall₂ (flip Spot.IsImage) locations model.outline := .flip images
    obtain ⟨spot, found, isImage⟩ := exists_of_forall₂ turned known
    obtain ⟨other, there, parent, inside, _⟩ := isImage.place
    cases here.symm.trans there
    exact ⟨spot, List.mem_of_getElem? found, Location.number_of_getElem? found, parent, inside⟩
  · -- What stands after the locations is an item, and has no place.
    rw [List.getElem?_append_right beyond] at known
    have turned : List.Forall₂ (flip fun entry entity => entry.1.IsImage entry.2 entity) items
        (model.items.zipIdx model.outline.length) := .flip item_images
    obtain ⟨entry, _, isImage⟩ := exists_of_forall₂ turned known
    cases here.symm.trans isImage.place

theorem parent?_of_mem (image : model.IsImage world.entities) {spot : Spot}
    (member : spot ∈ model.outline) : world.parent? spot.number = spot.parent? := by
  obtain ⟨entity, found, isImage⟩ := image.placed member
  obtain ⟨place, here, parent, _⟩ := isImage.place
  simp [World.parent?, World.place?, found, here, parent]

theorem inside_of_mem (image : model.IsImage world.entities) {spot : Spot}
    (member : spot ∈ model.outline) : world.inside spot.number = spot.inside := by
  obtain ⟨entity, found, isImage⟩ := image.placed member
  obtain ⟨place, here, _, inside, _⟩ := isImage.place
  simp [World.inside, World.place?, found, here, inside]

/-- What has something inside it is a location of the outline. -/
theorem spot_of_inside (image : model.IsImage world.entities) {number inner : Nat}
    (member : inner ∈ world.inside number) :
    ∃ spot ∈ model.outline, spot.number = number ∧ inner ∈ spot.inside := by
  cases placed : world.place? number with
  | none => simp [World.inside, placed] at member
  | some place =>
      obtain ⟨spot, among, rfl, _⟩ := image.spot_of_place? placed
      exact ⟨spot, among, rfl, image.inside_of_mem among ▸ member⟩

/-- The locations inside a location are exactly those that it is the parent of. -/
theorem parent?_eq_some_iff (image : model.IsImage world.entities) {number inner : Nat} :
    world.parent? inner = some number ↔ inner ∈ world.inside number := by
  constructor
  · intro around
    obtain ⟨place, placed, parent⟩ := Option.bind_eq_some_iff.1 around
    obtain ⟨spot, among, rfl, same, _⟩ := image.spot_of_place? placed
    rw [same] at parent
    rcases Location.around_outlineAll none 0 model.locations spot among with
      ⟨none, _⟩ | ⟨outer, outer_among, within, inside⟩
    · cases none.symm.trans parent
    · cases within.symm.trans parent
      rw [image.inside_of_mem outer_among]
      exact inside
  · intro member
    obtain ⟨spot, among, rfl, inside⟩ := image.spot_of_inside member
    have nested : List.Forall₂ _ spot.inside spot.location.locations :=
      Location.nested_outlineAll none 0 model.locations spot among
    obtain ⟨position, at_position⟩ := List.mem_iff_getElem?.1 inside
    obtain ⟨location, _, there⟩ := exists_of_forall₂ nested at_position
    exact image.parent?_of_mem there

end World.IsImage

/-- A world with the image of a definition for its entities is faithful to it, if keys are distinct and
every passage belongs to the entity that it is told for. -/
theorem World.faithful_of_isImage {model : World} {world : Narrative.World}
    (image : model.IsImage world.entities) (distinct : (keysOf world.entities).Nodup)
    (well : world.WellBuilt) : model.Faithful world where
  entities := image
  placed _ member := image.placed member
  keyed _ _ := World.resolve?_eq_some_iff distinct
  top := Location.heads_outlineAll none 0 model.locations
  nested spot member := by
    rw [image.inside_of_mem member]
    exact Location.nested_outlineAll none 0 model.locations spot member
  linked _ _ := image.parent?_eq_some_iff
  inward number inner member := by
    obtain ⟨spot, _, rfl, inside⟩ := image.spot_of_inside member
    exact Location.le_of_mem_numbersFrom inside
  owned path node found := ⟨well.owner_eq path node found, well.sourceOf_eq found⟩

end Model

/-! ### Building

At the end of building the listeners are told of the start, and a reaction may already change tags.
What was written apart from the tags is there all the same. -/

/-- The entity without its tags. -/
def Entity.untagged (entity : Entity) : Entity := { entity with tags := .empty }

/-- Impacts, events and moves of the focus change nothing of an entity but its tags. -/
theorem World.stable_untagged (entities : List Entity) :
    Stable (fun _ => True) fun world =>
      world.entities.map Entity.untagged = entities.map Entity.untagged where
  setTags {world} tags holder kept := by
    rw [← kept]
    cases holder with
    | player | inventory => rfl
    | entity number =>
        apply map_modify_of_unseen
        intro entity _
        rfl
  fits _ _ := trivial
  focus _ kept := kept
  books _ _ _ _ kept := kept

namespace Model

/-- What does not see a difference between entities holds of the one list as of the other. -/
theorem forall₂_of_map_eq {α β : Type} {Related : α → β → Prop} {see : β → β}
    (seen : ∀ entry image, Related entry (see image) ↔ Related entry image) {entries : List α}
    {images others : List β} (same : others.map see = images.map see)
    (related : List.Forall₂ Related entries images) : List.Forall₂ Related entries others := by
  have through : List.Forall₂ Related entries (others.map see) := by
    rw [same, List.forall₂_map_right_iff]
    exact related.imp fun entry image => (seen entry image).2
  rw [List.forall₂_map_right_iff] at through
  exact through.imp fun entry image => (seen entry image).1

theorem World.IsImage.of_untagged {model : World} {entities others : List Entity}
    (image : model.IsImage entities)
    (same : others.map Entity.untagged = entities.map Entity.untagged) : model.IsImage others := by
  obtain ⟨locations, items, rfl, location_images, item_images⟩ := image
  rw [List.map_append] at same
  obtain ⟨first, second, rfl, first_same, second_same⟩ := List.map_eq_append_iff.1 same
  refine ⟨first, second, rfl, ?_, ?_⟩
  · refine forall₂_of_map_eq ?_ first_same location_images
    intro spot entity
    constructor <;> intro image <;>
      exact ⟨image.name, image.key, image.node, image.combinations, image.place⟩
  · refine forall₂_of_map_eq ?_ second_same item_images
    intro entry entity
    constructor <;> intro image <;>
      exact ⟨image.name, image.key, image.node, image.combinations, image.place⟩

/-- Whoever listens, building leaves nothing out and adds nothing. -/
theorem World.untagged_of_build {model : World} {bus : Bus Handler} {world : Narrative.World}
    (built : model.build bus = .ok world) :
    ∃ entities, model.entities = .ok entities ∧
      world.entities.map Entity.untagged = entities.map Entity.untagged := by
  obtain ⟨begun, entities_built, _, _, _, _, _, rfl⟩ := build_cases built
  have stable := World.stable_untagged begun.entities
  refine ⟨begun.entities, entities_built, ?_⟩
  apply stable.emit
  apply stable.emit
  rfl

/-- A world that was built is faithful to its definition. -/
theorem World.isFaithful_of_build {model : World} {bus : Bus Handler} {world : Narrative.World}
    (built : model.build bus = .ok world) : model.Faithful world := by
  obtain ⟨entities, entities_built, same⟩ := World.untagged_of_build built
  have image := (World.isImage_of_entities entities_built).of_untagged same
  have keys : keysOf world.entities = keysOf entities := by
    have unseen (entities : List Entity) :
        keysOf (entities.map Entity.untagged) = keysOf entities := by
      simp only [keysOf, List.filterMap_map]
      rfl
    rw [← unseen world.entities, same, unseen]
  have distinct : (keysOf world.entities).Nodup := keys ▸ World.nodup_keysOf entities_built
  have well := (World.wellBuilt_plan world).1 (World.follows_of_build built).1
  exact World.faithful_of_isImage image distinct well

end Model

end Narrative
