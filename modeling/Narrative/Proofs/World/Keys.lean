/-
Module: Narrative.Proofs.World.Keys
Purpose: Keys name entities. No two entities of a world that was built have one key, so a key leads to
  an entity exactly if the entity has it.
Main exports: Model.NewKeys, Model.World.nodup_keysOf, World.resolve?_eq_some_iff
-/
import Narrative.Proofs.World.Image

namespace Narrative

theorem Entity.lookupKey?_eq_some_iff {entity : Entity} {key : String} :
    entity.lookupKey? = some key ↔ entity.key? = some key ∧ key ≠ "" := by
  simp [lookupKey?, Option.filter_eq_some_iff]

namespace Model

/-- The keys of the entities are distinct, and none of them was taken before. -/
def NewKeys (taken : List String) (entities : List Entity) : Prop :=
  (keysOf entities).Nodup ∧ ∀ key ∈ keysOf entities, key ∉ taken

theorem NewKeys.nil (taken : List String) : NewKeys taken [] := ⟨.nil, by simp [keysOf]⟩

theorem NewKeys.append {taken : List String} {entities others : List Entity}
    (first : NewKeys taken entities) (second : NewKeys (taken ++ keysOf entities) others) :
    NewKeys taken (entities ++ others) := by
  obtain ⟨distinct, fresh⟩ := first
  obtain ⟨also_distinct, also_fresh⟩ := second
  unfold NewKeys keysOf at *
  rw [List.filterMap_append]
  constructor
  · refine List.nodup_append.2 ⟨distinct, also_distinct, ?_⟩
    rintro key early _ late rfl
    exact also_fresh key late (List.mem_append_right _ early)
  · intro key member
    rcases List.mem_append.1 member with early | late
    · exact fresh key early
    · exact fun before => also_fresh key late (List.mem_append_left _ before)

/-- An entity with a key that was checked has a new key, and so have those after it. -/
theorem NewKeys.cons {taken : List String} {entity : Entity} {others : List Entity}
    (checked : checkKey taken entity.key? = .ok ())
    (rest : NewKeys (taken ++ entity.key?.toList) others) : NewKeys taken (entity :: others) := by
  obtain ⟨distinct, fresh⟩ := rest
  have later : ∀ key ∈ keysOf others, key ∉ taken := by
    intro key member before
    exact fresh key member (List.mem_append_left _ before)
  unfold NewKeys keysOf at *
  cases looked : entity.lookupKey? with
  | none =>
      rw [List.filterMap_cons_none looked]
      exact ⟨distinct, later⟩
  | some key =>
      obtain ⟨has, filled⟩ := Entity.lookupKey?_eq_some_iff.1 looked
      rw [List.filterMap_cons_some looked]
      constructor
      · refine List.nodup_cons.2 ⟨?_, distinct⟩
        intro member
        exact fresh key member (List.mem_append_right _ (by simp [has]))
      · rw [List.forall_mem_cons]
        refine ⟨?_, later⟩
        intro before
        simp [checkKey, has, filled, before] at checked

mutual

theorem Location.newKeys_of_build : ∀ {parent? : Option Nat} {taken : List String} {number : Nat}
    {location : Location} {block : List Entity},
    Location.build parent? taken number location = .ok block → NewKeys taken block
  | parent?, taken, number, ⟨_, key?, _, _, _, _, locations, _, _⟩, block, built => by
      obtain ⟨entity, blocks, rfl, image, _, checked, inner⟩ := Location.head_isImage built
      have key : entity.key? = key? := image.key
      dsimp only at checked inner
      rw [← key] at checked inner
      exact .cons checked (Location.newKeys_of_buildAll inner)

theorem Location.newKeys_of_buildAll : ∀ {parent? : Option Nat} {taken : List String}
    {number : Nat} {locations : List Location} {blocks : List (List Entity)},
    Location.buildAll parent? taken number locations = .ok blocks → NewKeys taken blocks.flatten
  | _, taken, _, [], blocks, built => by
      cases built
      exact .nil taken
  | parent?, taken, number, location :: rest, blocks, built => by
      rw [Location.buildAll] at built
      obtain ⟨first, first_built, built⟩ := bind_eq_ok.1 built
      obtain ⟨others, others_built, same⟩ := bind_eq_ok.1 built
      cases same
      exact .append (Location.newKeys_of_build first_built)
        (Location.newKeys_of_buildAll others_built)

end

theorem Item.newKeys_of_build {taken : List String} {number : Nat} {item : Item} {entity : Entity}
    (built : Item.build taken number item = .ok entity) : NewKeys taken [entity] := by
  obtain ⟨tags, _, built⟩ := bind_eq_ok.1 built
  obtain ⟨_, checked, built⟩ := bind_eq_ok.1 built
  obtain ⟨node, _, built⟩ := bind_eq_ok.1 built
  obtain ⟨uses, _, same⟩ := bind_eq_ok.1 built
  cases same
  exact .cons checked (.nil _)

theorem Item.newKeys_of_buildAll {taken : List String} {number : Nat} {items : List Item}
    {entities : List Entity} (built : Item.buildAll taken number items = .ok entities) :
    NewKeys taken entities := by
  induction items generalizing taken number entities with
  | nil =>
      cases built
      exact .nil taken
  | cons item rest ih =>
      rw [Item.buildAll] at built
      obtain ⟨first, first_built, built⟩ := bind_eq_ok.1 built
      obtain ⟨others, others_built, same⟩ := bind_eq_ok.1 built
      cases same
      exact .append (Item.newKeys_of_build first_built) (ih others_built)

/-- The keys of the entities of a definition are distinct. -/
theorem World.nodup_keysOf {model : World} {entities : List Entity}
    (built : model.entities = .ok entities) : (keysOf entities).Nodup := by
  obtain ⟨blocks, blocks_built, built⟩ := bind_eq_ok.1 built
  obtain ⟨items, items_built, same⟩ := bind_eq_ok.1 built
  cases same
  have locations := Location.newKeys_of_buildAll blocks_built
  have all : NewKeys [] (blocks.flatten ++ items) :=
    locations.append (by simpa using Item.newKeys_of_buildAll items_built)
  exact all.1

end Model

/-- A key leads to the entity that has it. An empty key is none. -/
theorem World.resolve?_eq_some_iff {world : World} (distinct : (Model.keysOf world.entities).Nodup)
    {key : String} {number : Nat} :
    world.resolve? key = some number ↔
      key ≠ "" ∧ ∃ entity, world.entity? number = some entity ∧ entity.key? = some key := by
  have apart : world.entities.Pairwise fun first second =>
      ∀ key, first.lookupKey? = some key → second.lookupKey? ≠ some key := by
    refine (List.pairwise_filterMap.1 distinct).imp ?_
    intro first second differ key here there
    exact differ key here key there rfl
  unfold resolve?
  rw [List.findIdx?_eq_some_iff_getElem]
  constructor
  · rintro ⟨within, here, _⟩
    obtain ⟨has, filled⟩ := Entity.lookupKey?_eq_some_iff.1 (of_decide_eq_true here)
    exact ⟨filled, _, List.getElem?_eq_getElem within, has⟩
  · rintro ⟨filled, entity, found, has⟩
    obtain ⟨within, rfl⟩ := List.getElem?_eq_some_iff.1 found
    have here := Entity.lookupKey?_eq_some_iff.2 ⟨has, filled⟩
    refine ⟨within, decide_eq_true here, ?_⟩
    intro earlier before there
    exact List.pairwise_iff_getElem.1 apart earlier number _ within before key
      (of_decide_eq_true there) here

end Narrative
