/-
Module: Narrative.Proofs.World.Failure
Purpose: When a world cannot be built, and why. Something in its definition cannot be read or a key is
  given twice, or all can be read and the story does not start at a location; otherwise there is a world
  whose story begins at that location.
Main exports: Model.Descriptor.Writes, Model.World.Writes, Model.World.Flawed,
  Model.World.readAll_ok_iff_not_flawed, Model.World.resolveLocation?_prepared_iff,
  Model.World.build_outcome
-/
import Narrative.Proofs.World.Clauses
import Narrative.Proofs.World.Faithful
import Narrative.Proofs.World.Listeners

namespace Narrative.Model

/-! ### Flaws of a definition -/

/-- The outcome is a failure. -/
def Refused {ε α : Type} (outcome : Except ε α) : Prop := ∃ error, outcome = .error error

/-- The passage stands in the descriptor: it is its own, or stands in one of those below. -/
inductive Descriptor.Writes : Descriptor → Passage → Prop
  | own {passage : Passage} {correlation : Correlation} {descriptors : List Descriptor} :
      Writes ⟨passage, correlation, descriptors⟩ passage
  | within {passage inner : Passage} {correlation : Correlation} {descriptors : List Descriptor}
      {descriptor : Descriptor} (member : descriptor ∈ descriptors)
      (written : Writes descriptor inner) : Writes ⟨passage, correlation, descriptors⟩ inner

/-- The passage stands in the definition: with a location or an item, or with something that can be done
there or with it, at any depth. -/
inductive World.Writes (world : World) (passage : Passage) : Prop
  | location {spot : Spot} (among : spot ∈ world.outline)
      (written : Descriptor.Writes ⟨spot.location.passage, .none, spot.location.descriptors⟩ passage)
  | interaction {spot : Spot} {interaction : Interaction} (among : spot ∈ world.outline)
      (member : interaction ∈ spot.location.interactions)
      (written : Descriptor.Writes ⟨interaction.passage, .none, interaction.descriptors⟩ passage)
  | combination {spot : Spot} {combination : Combination} (among : spot ∈ world.outline)
      (member : combination ∈ spot.location.combinations)
      (written : Descriptor.Writes ⟨combination.passage, .none, combination.descriptors⟩ passage)
  | item {item : Item} (among : item ∈ world.items)
      (written : Descriptor.Writes ⟨item.passage, .none, item.descriptors⟩ passage)
  | itemCombination {item : Item} {combination : Combination} (among : item ∈ world.items)
      (member : combination ∈ item.combinations)
      (written : Descriptor.Writes ⟨combination.passage, .none, combination.descriptors⟩ passage)

/-- The keys of the locations, at any depth, and of the items; an empty one is none. -/
def World.keys (world : World) : List String :=
  world.outline.filterMap (fun spot => spot.location.key?.filter (· ≠ "")) ++
    world.items.filterMap (fun item => item.key?.filter (· ≠ ""))

/-- Something in the definition cannot be read, or two entities have one key. -/
inductive World.Flawed (world : World) : Prop
  | playerTags (refused : Refused (TagSet.parse world.player.tags?))
  | inventory (refused : Refused (TagSet.parse world.player.inventory?))
  | locationTags {spot : Spot} (among : spot ∈ world.outline)
      (refused : Refused (TagSet.parse spot.location.tags?))
  | itemTags {item : Item} (among : item ∈ world.items) (refused : Refused (TagSet.parse item.tags?))
  | requirement {passage : Passage} {text : String} (written : world.Writes passage)
      (required : passage.requires? = some text) (refused : Refused (Requirement.parse text))
  | impacts {passage : Passage} {text : String} (written : world.Writes passage)
      (given : passage.impact? = some text) (refused : Refused (Impact.parseList (some text)))
  | keys (repeated : ¬ world.keys.Nodup)

/-! ### Clauses that can be read -/

theorem exists_ok_iff {ε α : Type} {outcome : Except ε α} :
    (∃ value, outcome = .ok value) ↔ ¬ Refused outcome := by
  unfold Refused
  cases outcome <;> simp

/-- The requirement and the impacts of the passage can be read. -/
def Passage.IsReadable (passage : Passage) : Prop :=
  (∀ text, passage.requires? = some text → ¬ Refused (Requirement.parse text)) ∧
    ∀ text, passage.impact? = some text → ¬ Refused (Impact.parseList (some text))

theorem Clause.isReadable_passage {label : String} {passage : Passage} :
    (Clause.passage label passage).IsReadable ↔ passage.IsReadable := by
  unfold IsReadable Passage.IsReadable
  apply and_congr
  · rw [exists_ok_iff]
    cases passage.requires? with
    | none => simp [Refused, pure, Except.pure]
    | some text => simp [Refused, map_eq_error, Functor.map]
  · rw [exists_ok_iff]
    cases passage.impact? with
    | none => simp [Refused, Impact.parseList]
    | some text => simp

mutual

theorem Descriptor.readable_iff : ∀ (label : String) (descriptor : Descriptor),
    (∀ clause ∈ descriptor.clauses label, clause.IsReadable) ↔
      ∀ passage, descriptor.Writes passage → passage.IsReadable
  | label, ⟨own, correlation, descriptors⟩ => by
      rw [Descriptor.clauses, List.forall_mem_cons, Clause.isReadable_passage,
        Descriptor.readableAll_iff label 0 descriptors]
      constructor
      · rintro ⟨here, below⟩ passage written
        cases written with
        | own => exact here
        | within member written => exact below _ member passage written
      · intro all
        exact ⟨all own .own, fun descriptor member passage written =>
          all passage (.within member written)⟩

theorem Descriptor.readableAll_iff : ∀ (label : String) (position : Nat)
    (descriptors : List Descriptor),
    (∀ clause ∈ Descriptor.clausesAll label position descriptors, clause.IsReadable) ↔
      ∀ descriptor ∈ descriptors, ∀ passage, descriptor.Writes passage → passage.IsReadable
  | _, _, [] => by simp [Descriptor.clausesAll]
  | label, position, descriptor :: rest => by
      rw [Descriptor.clausesAll, List.forall_mem_append, List.forall_mem_cons,
        Descriptor.readable_iff _ descriptor, Descriptor.readableAll_iff label (position + 1) rest]

end

theorem Location.readable_iff (location : Location) :
    (∀ clause ∈ location.clauses, clause.IsReadable) ↔
      ¬ Refused (TagSet.parse location.tags?) ∧
      (∀ passage, Descriptor.Writes ⟨location.passage, .none, location.descriptors⟩ passage →
        passage.IsReadable) ∧
      (∀ interaction ∈ location.interactions, ∀ passage,
        Descriptor.Writes ⟨interaction.passage, .none, interaction.descriptors⟩ passage →
          passage.IsReadable) ∧
      ∀ combination ∈ location.combinations, ∀ passage,
        Descriptor.Writes ⟨combination.passage, .none, combination.descriptors⟩ passage →
          passage.IsReadable := by
  unfold Location.clauses
  simp only [List.forall_mem_cons, List.forall_mem_append, List.forall_mem_flatMap,
    Interaction.clauses, Combination.clauses, Descriptor.readable_iff]
  simp only [Clause.IsReadable, exists_ok_iff, true_and, and_assoc]

theorem Item.readable_iff (item : Item) :
    (∀ clause ∈ item.clauses, clause.IsReadable) ↔
      ¬ Refused (TagSet.parse item.tags?) ∧
      (∀ passage, Descriptor.Writes ⟨item.passage, .none, item.descriptors⟩ passage →
        passage.IsReadable) ∧
      ∀ combination ∈ item.combinations, ∀ passage,
        Descriptor.Writes ⟨combination.passage, .none, combination.descriptors⟩ passage →
          passage.IsReadable := by
  unfold Item.clauses
  simp only [List.forall_mem_cons, List.forall_mem_append, List.forall_mem_flatMap,
    Combination.clauses, Descriptor.readable_iff]
  simp only [Clause.IsReadable, exists_ok_iff, true_and]

/-- All clauses of a world can be read exactly if all tags and all passages in it can. -/
theorem World.readable_iff (world : World) :
    (∀ clause ∈ world.clauses, clause.IsReadable) ↔
      ¬ Refused (TagSet.parse world.player.tags?) ∧
      ¬ Refused (TagSet.parse world.player.inventory?) ∧
      (∀ spot ∈ world.outline, ¬ Refused (TagSet.parse spot.location.tags?)) ∧
      (∀ item ∈ world.items, ¬ Refused (TagSet.parse item.tags?)) ∧
      ∀ passage, world.Writes passage → passage.IsReadable := by
  unfold World.clauses World.entityClauses
  simp only [List.forall_mem_cons, List.forall_mem_append, List.forall_mem_flatMap,
    Location.readable_iff, Item.readable_iff]
  simp only [Clause.IsReadable, exists_ok_iff]
  constructor
  · rintro ⟨player, inventory, locations, items⟩
    refine ⟨player, inventory, fun spot among => (locations spot among).1,
      fun item among => (items item among).1, ?_⟩
    intro passage written
    cases written with
    | location among written => exact (locations _ among).2.1 passage written
    | interaction among member written => exact (locations _ among).2.2.1 _ member passage written
    | combination among member written => exact (locations _ among).2.2.2 _ member passage written
    | item among written => exact (items _ among).2.1 passage written
    | itemCombination among member written => exact (items _ among).2.2 _ member passage written
  · rintro ⟨player, inventory, locations, items, passages⟩
    refine ⟨player, inventory, fun spot among => ⟨locations spot among, ?_, ?_, ?_⟩,
      fun item among => ⟨items item among, ?_, ?_⟩⟩
    · exact fun passage written => passages passage (.location among written)
    · exact fun _ member passage written => passages passage (.interaction among member written)
    · exact fun _ member passage written => passages passage (.combination among member written)
    · exact fun passage written => passages passage (.item among written)
    · exact fun _ member passage written => passages passage (.itemCombination among member written)

theorem World.keysIn_clauses (world : World) : keysIn world.clauses = world.keys := by
  show keysIn world.entityClauses = _
  unfold World.entityClauses World.keys
  rw [keysIn_append]
  unfold keysIn
  simp only [List.flatMap_assoc, List.filterMap_eq_flatMap_toList]
  congr 1
  · congr 1
    funext spot
    exact keysIn_location spot.location
  · congr 1
    funext item
    exact keysIn_item item

/-- The clauses of a world can be read one after the other exactly if nothing is wrong with it. -/
theorem World.readAll_ok_iff_not_flawed (world : World) :
    readAll [] world.clauses = .ok () ↔ ¬ world.Flawed := by
  rw [readAll_ok_iff .nil, List.nil_append, world.keysIn_clauses, world.readable_iff]
  constructor
  · rintro ⟨⟨player, inventory, locations, items, passages⟩, distinct⟩ flawed
    cases flawed with
    | playerTags refused => exact player refused
    | inventory refused => exact inventory refused
    | locationTags among refused => exact locations _ among refused
    | itemTags among refused => exact items _ among refused
    | requirement written required refused => exact (passages _ written).1 _ required refused
    | impacts written given refused => exact (passages _ written).2 _ given refused
    | keys repeated => exact repeated distinct
  · intro sound
    refine ⟨⟨fun refused => sound (.playerTags refused), fun refused => sound (.inventory refused),
      fun _ among refused => sound (.locationTags among refused),
      fun _ among refused => sound (.itemTags among refused), ?_⟩,
      Decidable.byContradiction fun repeated => sound (.keys repeated)⟩
    intro passage written
    exact ⟨fun _ required refused => sound (.requirement written required refused),
      fun _ given refused => sound (.impacts written given refused)⟩

/-! ### The start -/

theorem World.entities_of_prepared {model : World} {bus : Bus Handler} {prepared : Narrative.World}
    (built : model.prepared bus = .ok prepared) :
    model.entities = .ok prepared.entities ∧ prepared.bus = bus := by
  obtain ⟨player, _, built⟩ := bind_eq_ok.1 built
  obtain ⟨inventory, _, built⟩ := bind_eq_ok.1 built
  obtain ⟨entities, entities_built, same⟩ := bind_eq_ok.1 built
  cases same
  exact ⟨entities_built, rfl⟩

/-- In the world before its story begins, a key leads to a location exactly if it is not empty and that
location has it. -/
theorem World.resolveLocation?_prepared_iff {model : World} {bus : Bus Handler}
    {prepared : Narrative.World} (built : model.prepared bus = .ok prepared) {key : String}
    {number : Nat} :
    prepared.resolveLocation? key = some number ↔
      key ≠ "" ∧ ∃ spot ∈ model.outline, spot.number = number ∧ spot.location.key? = some key := by
  have entities_built := (World.entities_of_prepared built).1
  have image := World.isImage_of_entities entities_built
  unfold Narrative.World.resolveLocation?
  rw [Option.filter_eq_some_iff, World.resolve?_eq_some_iff (World.nodup_keysOf entities_built)]
  constructor
  · rintro ⟨⟨filled, entity, known, has⟩, located⟩
    rw [known] at located
    obtain ⟨place, placed⟩ := Option.isSome_iff_exists.1 located
    have here : prepared.place? number = some place := by
      rw [Narrative.World.place?, known]
      exact placed
    obtain ⟨spot, among, rfl, _⟩ := image.spot_of_place? here
    obtain ⟨other, there, isImage⟩ := image.placed among
    cases known.symm.trans there
    exact ⟨filled, spot, among, rfl, isImage.key ▸ has⟩
  · rintro ⟨filled, spot, among, rfl, has⟩
    obtain ⟨entity, known, isImage⟩ := image.placed among
    obtain ⟨place, placed, _⟩ := isImage.place
    refine ⟨⟨filled, entity, known, isImage.key.trans has⟩, ?_⟩
    rw [known]
    simp [Entity.isLocation, placed]

/-! ### Building -/

/-- The failure of an outcome. -/
def failureOf? {ε α : Type} : Except ε α → Option ε
  | .ok _ => none
  | .error failure => some failure

theorem eq_error_of_failureOf? {ε α : Type} {outcome : Except ε α} {failure : ε}
    (there : failureOf? outcome = some failure) : outcome = .error failure := by
  cases outcome with
  | ok value => cases there
  | error other =>
      cases there
      rfl

section

variable {model : World} {bus : Bus Handler}

theorem World.build_fails_iff_flawed :
    (∃ label? error, model.build bus = .error (.compile label? error)) ↔ model.Flawed := by
  simp only [World.build_compile_iff]
  constructor
  · rintro ⟨label?, error, failed⟩
    refine Classical.byContradiction fun sound => ?_
    rw [model.readAll_ok_iff_not_flawed.2 sound] at failed
    cases failed
  · intro flawed
    cases read : readAll [] model.clauses with
    | ok done => exact absurd flawed (model.readAll_ok_iff_not_flawed.1 read)
    | error failure =>
        obtain ⟨_, clause, _, error, _, _, _, rfl⟩ := readAll_error_iff.1 read
        exact ⟨clause.label?, error, rfl⟩

/-- The world of a definition that is not flawed can be prepared. -/
theorem World.exists_prepared (sound : ¬ model.Flawed) (bus : Bus Handler) :
    ∃ prepared, model.prepared bus = .ok prepared :=
  (model.reads_prepared bus).ok_iff.2 (model.readAll_ok_iff_not_flawed.2 sound)

/-- In the world of a definition, the story begins at the location that its start leads to. -/
theorem World.build_of_prepared {prepared : Narrative.World} (ready : model.prepared bus = .ok prepared) :
    model.build bus = match prepared.resolveLocation? model.start with
      | none => .error (.start model.start)
      | some start => .ok ((Narrative.World.emit (.focusChanged none start)
          { prepared with focus := start }).emit (.focusGained start)) := by
  rw [World.build_eq, ready]
  rfl

/-- A story without a location to start at does not begin. -/
theorem World.build_start_iff (sound : ¬ model.Flawed) :
    model.build bus = .error (.start model.start) ↔
      model.start = "" ∨ ∀ spot ∈ model.outline, spot.location.key? ≠ some model.start := by
  obtain ⟨prepared, ready⟩ := World.exists_prepared sound bus
  have missing : prepared.resolveLocation? model.start = none ↔
      model.start = "" ∨ ∀ spot ∈ model.outline, spot.location.key? ≠ some model.start := by
    rw [Option.eq_none_iff_forall_ne_some]
    simp only [ne_eq, World.resolveLocation?_prepared_iff ready]
    grind
  rw [← missing, World.build_of_prepared ready]
  cases prepared.resolveLocation? model.start <;> simp

/-- A story that starts at a location begins there. -/
theorem World.build_of_start (sound : ¬ model.Flawed) {spot : Spot} (among : spot ∈ model.outline)
    (filled : model.start ≠ "") (has : spot.location.key? = some model.start) :
    ∃ world, model.build bus = .ok world ∧
      (∃ entity, world.entity? spot.number = some entity ∧ spot.IsImage entity) ∧
      (bus.Quiet → world.focus = spot.number) := by
  obtain ⟨prepared, ready⟩ := World.exists_prepared sound bus
  have found : prepared.resolveLocation? model.start = some spot.number :=
    (World.resolveLocation?_prepared_iff ready).2 ⟨filled, spot, among, rfl, has⟩
  have built := World.build_of_prepared ready
  rw [found] at built
  refine ⟨_, built, (World.isFaithful_of_build built).placed spot among, ?_⟩
  intro quiet
  have begun : ({ prepared with focus := spot.number } : Narrative.World).bus.Quiet :=
    (World.entities_of_prepared ready).2 ▸ quiet
  rw [World.emit_eq_of_quiet (World.quiet_emit begun _), World.emit_eq_of_quiet begun]

end

/-- What becomes of a definition. Building fails with a fault of the definition exactly if it is flawed.
If it is not, building fails for the start exactly if that is empty or no location has it for its key;
otherwise there is a world, and as long as its listeners only note events, its story stands at that
location. -/
theorem World.build_outcome (model : World) (bus : Bus Handler) :
    ((∃ label? error, model.build bus = .error (.compile label? error)) ↔ model.Flawed) ∧
      (¬ model.Flawed →
        (model.build bus = .error (.start model.start) ↔
          model.start = "" ∨ ∀ spot ∈ model.outline, spot.location.key? ≠ some model.start) ∧
        ∀ spot ∈ model.outline, model.start ≠ "" → spot.location.key? = some model.start →
          ∃ world, model.build bus = .ok world ∧
            (∃ entity, world.entity? spot.number = some entity ∧ spot.IsImage entity) ∧
            (bus.Quiet → world.focus = spot.number)) := by
  refine ⟨World.build_fails_iff_flawed, fun sound => ⟨World.build_start_iff sound, ?_⟩⟩
  intro spot among filled has
  exact World.build_of_start sound among filled has

/-- A loft in which a story starts, with a trapdoor that opens once. -/
def loft : Location where
  name := "Loft"
  key? := some "loft"
  tags? := some (.entries ["dusty", "dark, low"])
  passage := {}
  disableExit := false
  descriptors := [⟨{ description? := some "A trapdoor.", requires? := some "!barn.open" }, .none,
    [⟨{ description? := some "It is shut.", impact? := some "+seen" }, .otherwise, []⟩]⟩]
  locations := []
  interactions := [⟨"Open", { requires? := some "seen * !barn.open", impact? := some "+barn.open, >barn" },
    []⟩]
  combinations := []

/-- A barn with its loft. -/
def barn : World where
  start := "loft"
  title := "Barn"
  player := { tags? := some (.line "tired") }
  locations := [{
    name := "Barn", key? := some "barn", tags? := none, passage := {}, disableExit := false
    descriptors := [], locations := [loft], interactions := [], combinations := [] }]
  items := []

/-- The barn is not flawed, and its story begins in the loft. -/
theorem World.build_outcome_barn :
    ¬ barn.Flawed ∧ ∃ world, barn.build {} = .ok world ∧ world.focus = 1 := by
  have checked : (barn.build {}).isOk = true := by decide +kernel
  obtain ⟨fails_iff, begins⟩ := World.build_outcome barn {}
  have sound : ¬ barn.Flawed := by
    intro flawed
    obtain ⟨label?, error, failed⟩ := fails_iff.2 flawed
    rw [failed] at checked
    cases checked
  have among : (⟨1, some 0, loft⟩ : Spot) ∈ barn.outline :=
    List.mem_of_getElem? (i := 1) rfl
  obtain ⟨world, built, _, focused⟩ := (begins sound).2 _ among (by decide) rfl
  exact ⟨sound, world, built, focused ⟨by simp, by decide⟩⟩

/-- A barn whose key is empty, as its start is. -/
def namelessBarn : World := { barn with
  start := ""
  locations := [{
    name := "Barn", key? := some "", tags? := none, passage := {}, disableExit := false
    descriptors := [], locations := [], interactions := [], combinations := [] }] }

/-- An empty key names no start: nothing is wrong with the barn whose key is empty, and a location has the
start for its key, but the story does not begin. -/
theorem World.build_namelessBarn :
    ¬ namelessBarn.Flawed ∧
      (∃ spot ∈ namelessBarn.outline, spot.location.key? = some namelessBarn.start) ∧
      namelessBarn.build {} = .error (.start namelessBarn.start) := by
  have failed : namelessBarn.build {} = .error (.start namelessBarn.start) :=
    eq_error_of_failureOf? (by decide +kernel)
  refine ⟨?_, ⟨_, List.mem_cons_self, rfl⟩, failed⟩
  intro flawed
  obtain ⟨label?, error, other⟩ := World.build_fails_iff_flawed.2 flawed
  cases failed.symm.trans other

end Narrative.Model
