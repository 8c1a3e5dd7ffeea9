/-
Module: Narrative.Proofs.World.Image
Purpose: What a world in play has of its definition. Entities are images of the locations and items that
  they were built from, part by part and in the same order, and every expression in them is written as
  the author wrote it.
Main exports: Model.Passage.IsImage, Model.Descriptor.IsImage, Model.Spot.IsImage, Model.Item.IsImage,
  Model.World.IsImage, Model.World.isImage_of_entities
-/
import Narrative.Proofs.Impact
import Narrative.Proofs.World.Built
import Narrative.Proofs.World.Outline

namespace Narrative

namespace Model

/-! ### Images of parts -/

/-- What an author wrote as impacts: the parts between commas, without the blanks around them. -/
def Passage.impactTexts (passage : Passage) : List String :=
  match passage.impact? with
  | none => []
  | some text => (text.toList.splitOn ',').map fun part => String.ofList (Text.trim part)

/-- The passage in play has what its author wrote, with the expressions read, and belongs to an
entity. -/
structure Passage.IsImage (owner : Nat) (correlation : Correlation) (passage : Passage)
    (image : Narrative.Passage) : Prop where
  description : image.description? = passage.description?
  requirement : image.requirement?.map (·.text) = passage.requires?
  requirement_read : passage.requires?.mapM Requirement.parse = .ok image.requirement?
  impacts : image.impacts.map (·.text) = passage.impactTexts
  impacts_read : Impact.parseList passage.impact? = .ok image.impacts
  correlation : image.correlation = correlation
  count : image.count = passage.evaluations
  limit : image.limit = passage.limit
  owner : image.owner = owner

/-- The node has the passage of the descriptor, and below it the nodes of the descriptors below, one
for each and in their order. -/
inductive Descriptor.IsImage (owner : Nat) : Descriptor → Node → Prop
  | intro {passage : Passage} {correlation : Correlation} {descriptors : List Descriptor}
      {image : Narrative.Passage} {nodes : List Node}
      (own : passage.IsImage owner correlation image)
      (below : List.Forall₂ (Descriptor.IsImage owner) descriptors nodes) :
      Descriptor.IsImage owner ⟨passage, correlation, descriptors⟩ ⟨image, nodes⟩

/-- An interaction in play has the name and the node of the one that was written. -/
structure Interaction.IsImage (owner : Nat) (interaction : Interaction)
    (image : Narrative.Interaction) : Prop where
  name : image.name = interaction.name
  node : Descriptor.IsImage owner ⟨interaction.passage, .none, interaction.descriptors⟩ image.node

/-- A combination in play has the partner and the node of the one that was written. -/
structure Combination.IsImage (owner : Nat) (combination : Combination)
    (image : Narrative.Combination) : Prop where
  target : image.target = combination.item
  node : Descriptor.IsImage owner ⟨combination.passage, .none, combination.descriptors⟩ image.node

/-- The entity has all that was written of a location, and lies where the location does. -/
structure Spot.IsImage (spot : Spot) (entity : Entity) : Prop where
  name : entity.name = spot.location.name
  key : entity.key? = spot.location.key?
  node : Descriptor.IsImage spot.number ⟨spot.location.passage, .none, spot.location.descriptors⟩
    entity.node
  combinations : List.Forall₂ (Combination.IsImage spot.number) spot.location.combinations
    entity.combinations
  place : ∃ place, entity.place? = some place ∧ place.parent? = spot.parent? ∧
    place.inside = spot.inside ∧ place.disableExit = spot.location.disableExit ∧
    List.Forall₂ (Interaction.IsImage spot.number) spot.location.interactions place.interactions

/-- The entity has all that was written of an item. -/
structure Item.IsImage (number : Nat) (item : Item) (entity : Entity) : Prop where
  name : entity.name = item.name
  key : entity.key? = item.key?
  node : Descriptor.IsImage number ⟨item.passage, .none, item.descriptors⟩ entity.node
  combinations : List.Forall₂ (Combination.IsImage number) item.combinations entity.combinations
  place : entity.place? = none

/-- The entities are the images of the locations in the order of the outline, and then those of the
items in their order. -/
def World.IsImage (model : World) (entities : List Entity) : Prop :=
  ∃ locations items, entities = locations ++ items ∧
    List.Forall₂ Spot.IsImage model.outline locations ∧
    List.Forall₂ (fun entry entity => entry.1.IsImage entry.2 entity)
      (model.items.zipIdx model.outline.length) items

/-! ### Passages and nodes -/

theorem Passage.texts_of_parseList {passage : Passage} {impacts : List Impact}
    (read : Impact.parseList passage.impact? = .ok impacts) :
    impacts.map (·.text) = passage.impactTexts := by
  unfold impactTexts
  cases written : passage.impact? with
  | none =>
      rw [written] at read
      cases read
      rfl
  | some text =>
      rw [written] at read
      exact Impact.texts_of_parseList read

/-- A requirement keeps the text that it was read from. -/
theorem Passage.text_of_requirement {passage : Passage} {requirement? : Option Requirement}
    (read : passage.requires?.mapM Requirement.parse = .ok requirement?) :
    requirement?.map (·.text) = passage.requires? := by
  cases written : passage.requires? with
  | none =>
      rw [written] at read
      cases read
      rfl
  | some text =>
      rw [written, Option.mapM_some] at read
      obtain ⟨requirement, parsed, same⟩ := map_eq_ok.1 read
      cases same
      unfold Requirement.parse at parsed
      split at parsed
      · cases parsed
      · obtain ⟨formula, _, same⟩ := bind_eq_ok.1 parsed
        cases same
        rfl

theorem Passage.isImage_of_build {passage : Passage} {correlation : Correlation} {owner : Nat}
    {label : String} {result : Narrative.Passage}
    (built : passage.build correlation owner label = .ok result) :
    passage.IsImage owner correlation result := by
  obtain ⟨requirement?, required, built⟩ := bind_eq_ok.1 built
  obtain ⟨impacts, impacted, same⟩ := bind_eq_ok.1 built
  cases same
  have requirement := mapError_eq_ok.1 required
  have impacts := mapError_eq_ok.1 impacted
  exact {
    description := rfl
    requirement := Passage.text_of_requirement requirement
    requirement_read := requirement
    impacts := Passage.texts_of_parseList impacts
    impacts_read := impacts
    correlation := rfl
    count := rfl
    limit := rfl
    owner := rfl }

mutual

theorem Descriptor.isImage_of_build : ∀ {owner : Nat} {label : String} {descriptor : Descriptor}
    {node : Node}, Descriptor.build owner label descriptor = .ok node →
      Descriptor.IsImage owner descriptor node
  | owner, label, ⟨passage, correlation, descriptors⟩, node, built => by
      rw [Descriptor.build] at built
      obtain ⟨own, own_built, built⟩ := bind_eq_ok.1 built
      obtain ⟨below, below_built, same⟩ := bind_eq_ok.1 built
      cases same
      exact .intro (Passage.isImage_of_build own_built) (Descriptor.isImage_of_buildAll below_built)

theorem Descriptor.isImage_of_buildAll : ∀ {owner : Nat} {label : String} {position : Nat}
    {descriptors : List Descriptor} {nodes : List Node},
    Descriptor.buildAll owner label position descriptors = .ok nodes →
      List.Forall₂ (Descriptor.IsImage owner) descriptors nodes
  | _, _, _, [], nodes, built => by
      cases built
      exact .nil
  | owner, label, position, descriptor :: rest, nodes, built => by
      rw [Descriptor.buildAll] at built
      obtain ⟨first, first_built, built⟩ := bind_eq_ok.1 built
      obtain ⟨others, others_built, same⟩ := bind_eq_ok.1 built
      cases same
      exact .cons (Descriptor.isImage_of_build first_built)
        (Descriptor.isImage_of_buildAll others_built)

end

theorem Interaction.isImage_of_build {owner : Nat} {label : String} {interaction : Interaction}
    {result : Narrative.Interaction} (built : interaction.build owner label = .ok result) :
    interaction.IsImage owner result := by
  obtain ⟨node, node_built, same⟩ := bind_eq_ok.1 built
  cases same
  exact ⟨rfl, Descriptor.isImage_of_build node_built⟩

theorem Combination.isImage_of_build {owner : Nat} {label : String} {combination : Combination}
    {result : Narrative.Combination} (built : combination.build owner label = .ok result) :
    combination.IsImage owner result := by
  obtain ⟨node, node_built, same⟩ := bind_eq_ok.1 built
  cases same
  exact ⟨rfl, Descriptor.isImage_of_build node_built⟩

theorem Interaction.isImage_of_mapM {owner : Nat} {label : String} {interactions : List Interaction}
    {images : List Narrative.Interaction}
    (built : interactions.mapM (Interaction.build owner label) = .ok images) :
    List.Forall₂ (Interaction.IsImage owner) interactions images :=
  forall₂_of_mapM (fun _ _ => Interaction.isImage_of_build) built

theorem Combination.isImage_of_mapM {owner : Nat} {label : String} {combinations : List Combination}
    {images : List Narrative.Combination}
    (built : combinations.mapM (Combination.build owner label) = .ok images) :
    List.Forall₂ (Combination.IsImage owner) combinations images :=
  forall₂_of_mapM (fun _ _ => Combination.isImage_of_build) built

/-! ### Locations and items -/

mutual

/-- A block is as long as its location has locations. -/
theorem Location.length_of_build : ∀ {parent? : Option Nat} {taken : List String} {number : Nat}
    {location : Location} {block : List Entity},
    Location.build parent? taken number location = .ok block → block.length = location.size
  | parent?, taken, number, ⟨_, _, _, _, _, _, locations, _, _⟩, block, built => by
      obtain ⟨entity, place, blocks, rfl, ⟨_, inner⟩, _⟩ := Location.build_cases built
      dsimp only at inner
      rw [List.length_cons, Location.length_of_buildAll inner, Location.size]

theorem Location.length_of_buildAll : ∀ {parent? : Option Nat} {taken : List String}
    {number : Nat} {locations : List Location} {blocks : List (List Entity)},
    Location.buildAll parent? taken number locations = .ok blocks →
      blocks.flatten.length = Location.sizeAll locations
  | _, _, _, [], blocks, built => by
      cases built
      rfl
  | parent?, taken, number, location :: rest, blocks, built => by
      rw [Location.buildAll] at built
      obtain ⟨first, first_built, built⟩ := bind_eq_ok.1 built
      obtain ⟨others, others_built, same⟩ := bind_eq_ok.1 built
      cases same
      rw [List.flatten_cons, List.length_append, Location.length_of_build first_built,
        Location.length_of_buildAll others_built, Location.sizeAll]

end

/-- The blocks begin at the numbers of their locations. -/
theorem Location.firstNumbers_of_buildAll {parent? : Option Nat} {taken : List String} {number : Nat}
    {locations : List Location} {blocks : List (List Entity)}
    (built : Location.buildAll parent? taken number locations = .ok blocks) :
    firstNumbers number blocks = Location.numbersFrom number locations := by
  induction locations generalizing taken number blocks with
  | nil =>
      cases built
      rfl
  | cons location rest ih =>
      rw [Location.buildAll] at built
      obtain ⟨first, first_built, built⟩ := bind_eq_ok.1 built
      obtain ⟨others, others_built, same⟩ := bind_eq_ok.1 built
      cases same
      have length := Location.length_of_build first_built
      rw [firstNumbers, Location.numbersFrom, ih others_built, length]

/-- The first entity of a block is the image of the location, whose tags were read and whose key was
not taken before, and its blocks are those of the locations inside it. -/
theorem Location.head_isImage {parent? : Option Nat} {taken : List String} {number : Nat}
    {location : Location} {block : List Entity}
    (built : Location.build parent? taken number location = .ok block) :
    ∃ entity blocks, block = entity :: blocks.flatten ∧
      Spot.IsImage ⟨number, parent?, location⟩ entity ∧ buildTags location.tags? = .ok entity.tags ∧
      checkKey taken location.key? = .ok () ∧
      Location.buildAll (some number) (taken ++ location.key?.toList) (number + 1)
        location.locations = .ok blocks := by
  cases location with
  | mk name key? tags? passage disableExit descriptors locations interactions combinations =>
      rw [Location.build] at built
      obtain ⟨tags, tags_built, built⟩ := bind_eq_ok.1 built
      obtain ⟨_, checked, built⟩ := bind_eq_ok.1 built
      obtain ⟨node, node_built, built⟩ := bind_eq_ok.1 built
      obtain ⟨acts, acts_built, built⟩ := bind_eq_ok.1 built
      obtain ⟨uses, uses_built, built⟩ := bind_eq_ok.1 built
      obtain ⟨blocks, blocks_built, same⟩ := bind_eq_ok.1 built
      cases same
      refine ⟨_, blocks, rfl, ?_, tags_built, checked, blocks_built⟩
      exact {
        name := rfl
        key := rfl
        node := Descriptor.isImage_of_build node_built
        combinations := Combination.isImage_of_mapM uses_built
        place := ⟨_, rfl, rfl, Location.firstNumbers_of_buildAll blocks_built, rfl,
          Interaction.isImage_of_mapM acts_built⟩ }

mutual

theorem Location.isImage_of_build : ∀ {parent? : Option Nat} {taken : List String} {number : Nat}
    {location : Location} {block : List Entity},
    Location.build parent? taken number location = .ok block →
      List.Forall₂ Spot.IsImage (location.outline parent? number) block
  | parent?, taken, number, ⟨_, _, _, _, _, _, locations, _, _⟩, block, built => by
      obtain ⟨entity, blocks, rfl, image, _, _, inner⟩ := Location.head_isImage built
      dsimp only at inner
      rw [Location.outline]
      exact .cons image (Location.isImage_of_buildAll inner)

/-- The entities that locations are built to are the images of their outline. -/
theorem Location.isImage_of_buildAll : ∀ {parent? : Option Nat} {taken : List String}
    {number : Nat} {locations : List Location} {blocks : List (List Entity)},
    Location.buildAll parent? taken number locations = .ok blocks →
      List.Forall₂ Spot.IsImage (Location.outlineAll parent? number locations) blocks.flatten
  | _, _, _, [], blocks, built => by
      cases built
      exact .nil
  | parent?, taken, number, location :: rest, blocks, built => by
      rw [Location.buildAll] at built
      obtain ⟨first, first_built, built⟩ := bind_eq_ok.1 built
      obtain ⟨others, others_built, same⟩ := bind_eq_ok.1 built
      cases same
      have length := Location.length_of_build first_built
      rw [length] at others_built
      rw [Location.outlineAll, List.flatten_cons]
      exact List.rel_append (Location.isImage_of_build first_built)
        (Location.isImage_of_buildAll others_built)

end

theorem Item.isImage_of_build {taken : List String} {number : Nat} {item : Item} {entity : Entity}
    (built : Item.build taken number item = .ok entity) : item.IsImage number entity := by
  obtain ⟨tags, _, built⟩ := bind_eq_ok.1 built
  obtain ⟨_, _, built⟩ := bind_eq_ok.1 built
  obtain ⟨node, node_built, built⟩ := bind_eq_ok.1 built
  obtain ⟨uses, uses_built, same⟩ := bind_eq_ok.1 built
  cases same
  exact {
    name := rfl
    key := rfl
    node := Descriptor.isImage_of_build node_built
    combinations := Combination.isImage_of_mapM uses_built
    place := rfl }

theorem Item.isImage_of_buildAll {taken : List String} {number : Nat} {items : List Item}
    {entities : List Entity} (built : Item.buildAll taken number items = .ok entities) :
    List.Forall₂ (fun entry entity => entry.1.IsImage entry.2 entity) (items.zipIdx number)
      entities := by
  induction items generalizing taken number entities with
  | nil =>
      cases built
      exact .nil
  | cons item rest ih =>
      rw [Item.buildAll] at built
      obtain ⟨first, first_built, built⟩ := bind_eq_ok.1 built
      obtain ⟨others, others_built, same⟩ := bind_eq_ok.1 built
      cases same
      exact .cons (Item.isImage_of_build first_built) (ih others_built)

/-- The entities of a definition are its image. -/
theorem World.isImage_of_entities {model : World} {entities : List Entity}
    (built : model.entities = .ok entities) : model.IsImage entities := by
  obtain ⟨blocks, blocks_built, built⟩ := bind_eq_ok.1 built
  obtain ⟨items, items_built, same⟩ := bind_eq_ok.1 built
  cases same
  have images := Location.isImage_of_buildAll blocks_built
  refine ⟨blocks.flatten, items, rfl, images, ?_⟩
  have length : model.outline.length = blocks.flatten.length := images.length_eq
  rw [length]
  exact Item.isImage_of_buildAll items_built

end Model

end Narrative
