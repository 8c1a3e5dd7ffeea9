/-
Module: Narrative.Proofs.World.Built
Purpose: What building guarantees: the locations around and inside a location are locations, every
  passage belongs to the entity that it is told for, and the story begins at a location.
Main exports: World.WellBuilt, World.wellBuilt_plan, World.WellBuilt.sourceOf_eq,
  Model.Location.build_fits, Model.World.build_cases,
  Model.World.follows_of_build
-/
import Narrative.Proofs.World.Evaluation
import Narrative.World.Build

namespace Narrative

/-- Numbers in the world are what they are used as. -/
structure World.WellBuilt (world : World) : Prop where
  parent_isLocation : ∀ number parent, world.parent? number = some parent → world.IsLocation parent
  inside_isLocation : ∀ number, ∀ inner ∈ world.inside number, world.IsLocation inner
  owner_eq : ∀ path node, world.node? path = some node → node.passage.owner = path.entity

/-- An entity with a number is in place among the known locations. -/
structure Entity.Fits (Known : Nat → Prop) (number : Nat) (entity : Entity) : Prop where
  parent : ∀ place ∈ entity.place?, ∀ parent ∈ place.parent?, Known parent
  inside : ∀ place ∈ entity.place?, ∀ inner ∈ place.inside, Known inner
  owner : ∀ slot node, entity.node? slot = some node →
    ∀ passage, node.Holds passage → passage.owner = number

namespace Model

/-! ### Owners -/

theorem Passage.owner_of_build {passage : Passage} {correlation : Correlation} {owner : Nat}
    {label : String} {result : Narrative.Passage}
    (built : passage.build correlation owner label = .ok result) : result.owner = owner := by
  obtain ⟨requirement?, _, built⟩ := bind_eq_ok.1 built
  obtain ⟨impacts, _, same⟩ := bind_eq_ok.1 built
  cases same
  rfl

mutual

theorem Descriptor.owner_of_build : ∀ {owner : Nat} {label : String} {descriptor : Descriptor}
    {node : Node}, Descriptor.build owner label descriptor = .ok node →
      ∀ passage, node.Holds passage → passage.owner = owner
  | owner, label, ⟨passage, correlation, descriptors⟩, node, built => by
      rw [Descriptor.build] at built
      obtain ⟨own, own_built, built⟩ := bind_eq_ok.1 built
      obtain ⟨below, below_built, same⟩ := bind_eq_ok.1 built
      cases same
      intro passage held
      rcases Node.holds_cases held with rfl | ⟨inner, member, held⟩
      · exact Passage.owner_of_build own_built
      · exact Descriptor.owner_of_buildAll below_built inner member passage held

theorem Descriptor.owner_of_buildAll : ∀ {owner : Nat} {label : String} {position : Nat}
    {descriptors : List Descriptor} {nodes : List Node},
    Descriptor.buildAll owner label position descriptors = .ok nodes →
      ∀ node ∈ nodes, ∀ passage, node.Holds passage → passage.owner = owner
  | _, _, _, [], nodes, built => by
      cases built
      simp
  | owner, label, position, descriptor :: rest, nodes, built => by
      rw [Descriptor.buildAll] at built
      obtain ⟨first, first_built, built⟩ := bind_eq_ok.1 built
      obtain ⟨others, others_built, same⟩ := bind_eq_ok.1 built
      cases same
      rw [List.forall_mem_cons]
      constructor
      · exact Descriptor.owner_of_build first_built
      · exact Descriptor.owner_of_buildAll others_built

end

theorem Interaction.owner_of_build {owner : Nat} {label : String} {interaction : Interaction}
    {result : Narrative.Interaction} (built : interaction.build owner label = .ok result) :
    ∀ passage, result.node.Holds passage → passage.owner = owner := by
  obtain ⟨node, node_built, same⟩ := bind_eq_ok.1 built
  cases same
  exact Descriptor.owner_of_build node_built

theorem Combination.owner_of_build {owner : Nat} {label : String} {combination : Combination}
    {result : Narrative.Combination} (built : combination.build owner label = .ok result) :
    ∀ passage, result.node.Holds passage → passage.owner = owner := by
  obtain ⟨node, node_built, same⟩ := bind_eq_ok.1 built
  cases same
  exact Descriptor.owner_of_build node_built

/-- The parts of an entity belong to it if its own node, its interactions and its combinations do. -/
theorem owner_of_parts {entity : Entity} {number : Nat}
    (body : ∀ passage, entity.node.Holds passage → passage.owner = number)
    (interactions : ∀ interaction ∈ entity.interactions,
      ∀ passage, interaction.node.Holds passage → passage.owner = number)
    (combinations : ∀ combination ∈ entity.combinations,
      ∀ passage, combination.node.Holds passage → passage.owner = number) :
    ∀ slot node, entity.node? slot = some node →
      ∀ passage, node.Holds passage → passage.owner = number := by
  intro slot node found
  cases slot with
  | body =>
      cases found
      exact body
  | interaction position =>
      obtain ⟨interaction, placed, rfl⟩ := Option.map_eq_some_iff.1 found
      exact interactions interaction (List.mem_of_getElem? placed)
  | combination position =>
      obtain ⟨combination, placed, rfl⟩ := Option.map_eq_some_iff.1 found
      exact combinations combination (List.mem_of_getElem? placed)

/-! ### Locations

A location takes its number and leaves the numbers after it to the blocks of the locations inside it,
one block after the other. No block is empty, so each begins with the location that it is of. -/

/-- What a location that was built consists of: itself, and the blocks inside it. -/
theorem Location.build_cases {parent? : Option Nat} {taken : List String} {number : Nat}
    {location : Location} {block : List Entity}
    (built : Location.build parent? taken number location = .ok block) :
    ∃ entity place blocks, block = entity :: blocks.flatten ∧
      (∃ taken, Location.buildAll (some number) taken (number + 1) location.locations = .ok blocks) ∧
      entity.place? = some place ∧ place.parent? = parent? ∧
      place.inside = firstNumbers (number + 1) blocks ∧
      ∀ slot node, entity.node? slot = some node →
        ∀ passage, node.Holds passage → passage.owner = number := by
  cases location with
  | mk name key? tags? passage disableExit descriptors locations interactions combinations =>
      rw [Location.build] at built
      obtain ⟨tags, _, built⟩ := bind_eq_ok.1 built
      obtain ⟨_, _, built⟩ := bind_eq_ok.1 built
      obtain ⟨node, node_built, built⟩ := bind_eq_ok.1 built
      obtain ⟨acts, acts_built, built⟩ := bind_eq_ok.1 built
      obtain ⟨uses, uses_built, built⟩ := bind_eq_ok.1 built
      obtain ⟨blocks, blocks_built, same⟩ := bind_eq_ok.1 built
      cases same
      refine ⟨_, _, blocks, rfl, ⟨_, blocks_built⟩, rfl, rfl, rfl, ?_⟩
      apply owner_of_parts
      · exact Descriptor.owner_of_build node_built
      · exact forall_of_mapM (fun _ _ built => Interaction.owner_of_build built) acts_built
      · exact forall_of_mapM (fun _ _ built => Combination.owner_of_build built) uses_built

mutual

/-- A block is not empty, and holds locations only. -/
theorem Location.build_isLocation : ∀ {parent? : Option Nat} {taken : List String} {number : Nat}
    {location : Location} {block : List Entity},
    Location.build parent? taken number location = .ok block →
      block ≠ [] ∧ ∀ entity ∈ block, entity.isLocation
  | parent?, taken, number, ⟨_, _, _, _, _, _, locations, _, _⟩, block, built => by
      obtain ⟨entity, place, blocks, rfl, ⟨_, inner⟩, placed, _⟩ := Location.build_cases built
      dsimp only at inner
      refine ⟨List.cons_ne_nil _ _, ?_⟩
      rw [List.forall_mem_cons]
      constructor
      · simp [Entity.isLocation, placed]
      · intro entity member
        obtain ⟨block, among, member⟩ := List.mem_flatten.1 member
        exact (Location.buildAll_isLocation inner block among).2 entity member

theorem Location.buildAll_isLocation : ∀ {parent? : Option Nat} {taken : List String}
    {number : Nat} {locations : List Location} {blocks : List (List Entity)},
    Location.buildAll parent? taken number locations = .ok blocks →
      ∀ block ∈ blocks, block ≠ [] ∧ ∀ entity ∈ block, entity.isLocation
  | _, _, _, [], blocks, built => by
      cases built
      simp
  | parent?, taken, number, location :: rest, blocks, built => by
      rw [Location.buildAll] at built
      obtain ⟨first, first_built, built⟩ := bind_eq_ok.1 built
      obtain ⟨others, others_built, same⟩ := bind_eq_ok.1 built
      cases same
      rw [List.forall_mem_cons]
      exact ⟨Location.build_isLocation first_built, Location.buildAll_isLocation others_built⟩

end

theorem firstNumbers_bounds {blocks : List (List Entity)} {number first : Nat}
    (filled : ∀ block ∈ blocks, block ≠ []) (member : first ∈ firstNumbers number blocks) :
    number ≤ first ∧ first < number + blocks.flatten.length := by
  induction blocks generalizing number with
  | nil => cases member
  | cons block rest ih =>
      obtain ⟨head, others⟩ := List.forall_mem_cons.1 filled
      have some_length := List.length_pos_iff.2 head
      rw [List.flatten_cons, List.length_append]
      rcases List.mem_cons.1 member with rfl | later
      · omega
      · have := ih others later
        omega

mutual

/-- The entities of a block fit where the location around it and all numbers of the block are known. -/
theorem Location.build_fits {Known : Nat → Prop} : ∀ {parent? : Option Nat} {taken : List String}
    {number : Nat} {location : Location} {block : List Entity},
    Location.build parent? taken number location = .ok block →
      (∀ parent ∈ parent?, Known parent) →
      (∀ other, number ≤ other → other < number + block.length → Known other) →
      ∀ entry ∈ block.zipIdx number, entry.1.Fits Known entry.2
  | parent?, taken, number, ⟨_, _, _, _, _, _, locations, _, _⟩, block, built, around, within => by
      obtain ⟨entity, place, blocks, rfl, ⟨_, inner⟩, placed, parent, inside, owner⟩ :=
        Location.build_cases built
      dsimp only at inner
      rw [List.length_cons] at within
      rw [List.zipIdx_cons, List.forall_mem_cons]
      constructor
      · constructor
        · intro there same
          cases placed.symm.trans same
          rw [parent]
          exact around
        · intro there same first member
          cases placed.symm.trans same
          rw [inside] at member
          have filled := fun block among => (Location.buildAll_isLocation inner block among).1
          have bounds := firstNumbers_bounds filled member
          apply within first <;> omega
        · exact owner
      · apply Location.buildAll_fits inner
        · intro parent same
          cases same
          apply within number <;> omega
        · intro other lower upper
          apply within other <;> omega

theorem Location.buildAll_fits {Known : Nat → Prop} : ∀ {parent? : Option Nat}
    {taken : List String} {number : Nat} {locations : List Location} {blocks : List (List Entity)},
    Location.buildAll parent? taken number locations = .ok blocks →
      (∀ parent ∈ parent?, Known parent) →
      (∀ other, number ≤ other → other < number + blocks.flatten.length → Known other) →
      ∀ entry ∈ blocks.flatten.zipIdx number, entry.1.Fits Known entry.2
  | _, _, _, [], blocks, built, around, within => by
      cases built
      simp
  | parent?, taken, number, location :: rest, blocks, built, around, within => by
      rw [Location.buildAll] at built
      obtain ⟨first, first_built, built⟩ := bind_eq_ok.1 built
      obtain ⟨others, others_built, same⟩ := bind_eq_ok.1 built
      cases same
      rw [List.flatten_cons, List.length_append] at within
      rw [List.flatten_cons, List.zipIdx_append, List.forall_mem_append]
      constructor
      · apply Location.build_fits first_built around
        intro other lower upper
        apply within other <;> omega
      · apply Location.buildAll_fits others_built around
        intro other lower upper
        apply within other <;> omega

end

/-! ### Items and worlds -/

theorem Item.build_fits {Known : Nat → Prop} {taken : List String} {number : Nat} {item : Item}
    {entity : Entity} (built : Item.build taken number item = .ok entity) :
    entity.Fits Known number := by
  obtain ⟨tags, _, built⟩ := bind_eq_ok.1 built
  obtain ⟨_, _, built⟩ := bind_eq_ok.1 built
  obtain ⟨node, node_built, built⟩ := bind_eq_ok.1 built
  obtain ⟨uses, uses_built, same⟩ := bind_eq_ok.1 built
  cases same
  constructor
  · intro place placed
    cases placed
  · intro place placed
    cases placed
  · apply owner_of_parts
    · exact Descriptor.owner_of_build node_built
    · intro interaction member
      cases member
    · exact forall_of_mapM (fun _ _ built => Combination.owner_of_build built) uses_built

theorem Item.buildAll_fits {Known : Nat → Prop} {taken : List String} {number : Nat}
    {items : List Item} {entities : List Entity}
    (built : Item.buildAll taken number items = .ok entities) :
    ∀ entry ∈ entities.zipIdx number, entry.1.Fits Known entry.2 := by
  induction items generalizing taken number entities with
  | nil =>
      cases built
      simp
  | cons item rest ih =>
      rw [Item.buildAll] at built
      obtain ⟨first, first_built, built⟩ := bind_eq_ok.1 built
      obtain ⟨others, others_built, same⟩ := bind_eq_ok.1 built
      cases same
      rw [List.zipIdx_cons, List.forall_mem_cons]
      exact ⟨Item.build_fits first_built, ih others_built⟩

/-- In a world made of the entities of a definition, every entity fits. -/
theorem World.fits_of_entities {model : World} (world : Narrative.World)
    (built : model.entities = .ok world.entities) :
    ∀ entry ∈ world.entities.zipIdx, entry.1.Fits world.IsLocation entry.2 := by
  obtain ⟨blocks, blocks_built, built⟩ := bind_eq_ok.1 built
  obtain ⟨items, items_built, same⟩ := bind_eq_ok.1 built
  have parts : blocks.flatten ++ items = world.entities := Except.ok.inj same
  have known : ∀ number, number < blocks.flatten.length → world.IsLocation number := by
    intro number within
    have member := List.getElem_mem within
    obtain ⟨block, among, inner⟩ := List.mem_flatten.1 member
    have located := (Location.buildAll_isLocation blocks_built block among).2 _ inner
    have here : world.entity? number = some blocks.flatten[number] := by
      rw [World.entity?, ← parts, List.getElem?_append_left within]
      exact List.getElem?_eq_getElem within
    simpa [World.IsLocation, World.place?, here, Entity.isLocation] using located
  rw [← parts, List.zipIdx_append, List.forall_mem_append]
  constructor
  · apply Location.buildAll_fits blocks_built
    · intro parent same
      cases same
    · intro number _ within
      apply known
      omega
  · rw [Nat.zero_add]
    exact Item.buildAll_fits items_built

end Model

theorem World.wellBuilt_of_fits {world : World}
    (fits : ∀ entry ∈ world.entities.zipIdx, entry.1.Fits world.IsLocation entry.2) :
    world.WellBuilt := by
  have entity_fits {number : Nat} {entity : Entity} (known : world.entity? number = some entity) :
      entity.Fits world.IsLocation number :=
    fits (entity, number) (List.mem_zipIdx_iff_getElem?.2 known)
  constructor
  · intro number parent around
    obtain ⟨place, placed, around⟩ := Option.bind_eq_some_iff.1 around
    obtain ⟨entity, known, placed⟩ := Option.bind_eq_some_iff.1 placed
    exact (entity_fits known).parent place placed parent around
  · intro number inner member
    unfold inside at member
    cases placed : world.place? number with
    | none => simp [placed] at member
    | some place =>
        simp only [placed, Option.map_some, Option.getD_some] at member
        obtain ⟨entity, known, placed⟩ := Option.bind_eq_some_iff.1 placed
        exact (entity_fits known).inside place placed inner member
  · intro path node found
    obtain ⟨entity, known, part⟩ := Option.bind_eq_some_iff.1 found
    obtain ⟨top, placed, below⟩ := Option.bind_eq_some_iff.1 part
    exact (entity_fits known).owner path.slot top placed node.passage ⟨path.below, node, below, rfl⟩

/-- The plan decides whether a world is well built. -/
@[simp] theorem World.wellBuilt_plan (world : World) : world.plan.WellBuilt ↔ world.WellBuilt := by
  constructor
  · intro well
    constructor
    · simpa using well.parent_isLocation
    · simpa using well.inside_isLocation
    · intro path node found
      have planned := well.owner_eq path node.plan (by simp [found])
      simpa [Passage.plan] using planned
  · intro well
    constructor
    · simpa using well.parent_isLocation
    · simpa using well.inside_isLocation
    · intro path node planned
      rw [node?_plan] at planned
      obtain ⟨inner, found, rfl⟩ := Option.map_eq_some_iff.1 planned
      simpa [Passage.plan] using well.owner_eq path inner found

/-- What a node means by its own tags are those of the entity that it is told for. -/
theorem World.WellBuilt.sourceOf_eq {world : World} (well : world.WellBuilt) {path : NodePath}
    {node : Node} (found : world.node? path = some node) : world.sourceOf path = path.entity := by
  unfold sourceOf
  split
  · rfl
  · simp [found, well.owner_eq path node found]

/-- What is built: the entities of the definition, and what the player is and holds, with the focus at
the start, as the listeners leave them when they are told of it. -/
theorem Model.World.build_cases {model : Model.World} {bus : Bus Handler}
    {world : Narrative.World} (built : model.build bus = .ok world) :
    ∃ begun : Narrative.World, model.entities = .ok begun.entities ∧
      buildTags model.player.tags? = .ok begun.player ∧
      buildTags model.player.inventory? = .ok begun.inventory ∧ begun.bus = bus ∧
      begun.journal = [] ∧ begun.resolveLocation? model.start = some begun.focus ∧
      world = (begun.emit (.focusChanged none begun.focus)).emit (.focusGained begun.focus) := by
  obtain ⟨player, player_built, built⟩ := bind_eq_ok.1 built
  obtain ⟨inventory, inventory_built, built⟩ := bind_eq_ok.1 built
  obtain ⟨entities, entities_built, built⟩ := bind_eq_ok.1 built
  dsimp only at built
  split at built
  next => cases built
  next start found =>
    cases built
    exact ⟨{ entities, player, inventory, focus := start, bus }, entities_built, player_built,
      inventory_built, rfl, rfl, found, rfl⟩

/-- A world that was built is well built, and its story begins at a location. -/
theorem Model.World.follows_of_build {model : Model.World} {bus : Bus Handler}
    {world : Narrative.World} (built : model.build bus = .ok world) :
    world.plan.WellBuilt ∧ Narrative.World.Follows world.plan world := by
  obtain ⟨begun, entities_built, _, _, _, _, found, rfl⟩ := Model.World.build_cases built
  -- The listeners may already act when they are told of the start, so only what they keep is known
  -- of the result.
  have well := World.wellBuilt_of_fits (World.fits_of_entities begun entities_built)
  have located := World.isLocation_of_resolveLocation? found
  have follows : Narrative.World.Follows begun.plan begun :=
    ⟨rfl, (World.isLocation_plan _ _).2 located⟩
  have told := (follows.emit (.focusChanged none begun.focus)).emit (.focusGained begun.focus)
  rw [told.plan_eq]
  exact ⟨(World.wellBuilt_plan _).2 well, told⟩

end Narrative
