/-
Module: Narrative.Proofs.World.Clauses
Purpose: What is read of a definition when its world is built: one clause after the other, the tags and
  the key of an entity before its passages, and a location before those inside it. Building goes as far
  as the clauses can be read, and fails with the fault of the first that cannot.
Main exports: Model.Clause, Model.World.clauses, Model.Clause.read, Model.readAll, Model.readAll_error_iff,
  Model.readAll_ok_iff, Model.Reads, Model.World.reads_entities, Model.World.reads_prepared,
  Model.World.build_compile_iff
-/
import Narrative.Proofs.World.Image

namespace Narrative.Model

/-! ### Clauses -/

/-- Something that is read of a definition: tags, the key of an entity, or a passage with what it is
called. -/
inductive Clause where
  | tags (written : Option TagText)
  | key (key? : Option String)
  | passage (label : String) (passage : Passage)

namespace Clause

/-- The label under which a fault of the clause is reported. -/
def label? : Clause → Option String
  | .tags _ | .key _ => none
  | .passage label _ => some label

/-- The key that the clause takes; an empty one is none. -/
def keys : Clause → List String
  | .key key? => (key?.filter (· ≠ "")).toList
  | .tags _ | .passage .. => []

/-- Reads the clause where some keys are taken. Of a passage, the requirement is read first. -/
def read (taken : List String) : Clause → Except CompileError Unit
  | .tags written => (TagSet.parse written).map fun _ => ()
  | .key key? =>
    match key?.filter (· ≠ "") with
    | some own => if own ∈ taken then .error (.duplicateKey own) else .ok ()
    | none => .ok ()
  | .passage _ written => do
    let _ ← written.requires?.mapM Requirement.parse
    let _ ← Impact.parseList written.impact?
    return ()

end Clause

/-- The keys that some clauses take. -/
def keysIn (clauses : List Clause) : List String := clauses.flatMap (·.keys)

/-- Reads clauses one after the other, up to the first that cannot be read. -/
def readAll : (taken : List String) → List Clause → Building Unit
  | _, [] => .ok ()
  | taken, clause :: rest => do
    (clause.read taken).mapError (.compile clause.label?)
    readAll (taken ++ clause.keys) rest

mutual

/-- The clauses of a descriptor: its own passage, and then those below it. -/
def Descriptor.clauses (label : String) : Descriptor → List Clause
  | ⟨passage, _, descriptors⟩ =>
    .passage label passage :: Descriptor.clausesAll label 0 descriptors

/-- The clauses of the descriptors of something, from a position on. -/
def Descriptor.clausesAll (label : String) : (position : Nat) → List Descriptor → List Clause
  | _, [] => []
  | position, descriptor :: rest =>
    Descriptor.clauses (Label.descriptor label position) descriptor ++
      Descriptor.clausesAll label (position + 1) rest

end

/-- The clauses of an interaction of an entity. -/
def Interaction.clauses (label : String) (interaction : Interaction) : List Clause :=
  Descriptor.clauses (Label.interaction label interaction.name)
    ⟨interaction.passage, .none, interaction.descriptors⟩

/-- The clauses of a combination of an entity. -/
def Combination.clauses (label : String) (combination : Combination) : List Clause :=
  Descriptor.clauses (Label.combination label combination.item)
    ⟨combination.passage, .none, combination.descriptors⟩

/-- The clauses of a location, without those of the locations inside it. -/
def Location.clauses (location : Location) : List Clause :=
  let label := Label.location (labelOf location.key? location.name)
  .tags location.tags? :: .key location.key? ::
    (Descriptor.clauses label ⟨location.passage, .none, location.descriptors⟩ ++
      location.interactions.flatMap (Interaction.clauses label) ++
      location.combinations.flatMap (Combination.clauses label))

/-- The clauses of an item. -/
def Item.clauses (item : Item) : List Clause :=
  let label := Label.item (labelOf item.key? item.name)
  .tags item.tags? :: .key item.key? ::
    (Descriptor.clauses label ⟨item.passage, .none, item.descriptors⟩ ++
      item.combinations.flatMap (Combination.clauses label))

/-- The clauses of the entities of a world: the locations as they stand in the outline, and then the
items. -/
def World.entityClauses (world : World) : List Clause :=
  world.outline.flatMap (·.location.clauses) ++ world.items.flatMap Item.clauses

/-- All clauses of a world, those of the player first. -/
def World.clauses (world : World) : List Clause :=
  .tags world.player.tags? :: .tags world.player.inventory? :: world.entityClauses

/-! ### Keys of clauses -/

@[simp] theorem keysIn_nil : keysIn [] = [] := rfl

@[simp] theorem keysIn_cons (clause : Clause) (rest : List Clause) :
    keysIn (clause :: rest) = clause.keys ++ keysIn rest := rfl

@[simp] theorem keysIn_append (clauses others : List Clause) :
    keysIn (clauses ++ others) = keysIn clauses ++ keysIn others :=
  List.flatMap_append

theorem keysIn_flatMap {α : Type} {entries : List α} {clauses : α → List Clause}
    (keyless : ∀ entry, keysIn (clauses entry) = []) : keysIn (entries.flatMap clauses) = [] := by
  induction entries with
  | nil => rfl
  | cons entry rest ih => simp [keyless, ih]

mutual

@[simp] theorem keysIn_descriptor : ∀ (label : String) (descriptor : Descriptor),
    keysIn (descriptor.clauses label) = []
  | label, ⟨passage, _, descriptors⟩ => by
      rw [Descriptor.clauses, keysIn_cons, keysIn_descriptors label 0 descriptors]
      rfl

@[simp] theorem keysIn_descriptors : ∀ (label : String) (position : Nat)
    (descriptors : List Descriptor), keysIn (Descriptor.clausesAll label position descriptors) = []
  | _, _, [] => rfl
  | label, position, descriptor :: rest => by
      rw [Descriptor.clausesAll, keysIn_append, keysIn_descriptor _ descriptor,
        keysIn_descriptors label (position + 1) rest, List.append_nil]

end

@[simp] theorem keysIn_interactions (label : String) (interactions : List Interaction) :
    keysIn (interactions.flatMap (Interaction.clauses label)) = [] :=
  keysIn_flatMap fun _ => keysIn_descriptor _ _

@[simp] theorem keysIn_combinations (label : String) (combinations : List Combination) :
    keysIn (combinations.flatMap (Combination.clauses label)) = [] :=
  keysIn_flatMap fun _ => keysIn_descriptor _ _

@[simp] theorem keysIn_location (location : Location) :
    keysIn location.clauses = (location.key?.filter (· ≠ "")).toList := by
  simp [Location.clauses, Clause.keys]

@[simp] theorem keysIn_item (item : Item) :
    keysIn item.clauses = (item.key?.filter (· ≠ "")).toList := by
  simp [Item.clauses, Clause.keys]

/-! ### Reading one clause after the other -/

theorem readAll_append (taken : List String) (clauses others : List Clause) :
    readAll taken (clauses ++ others) = (do
      readAll taken clauses
      readAll (taken ++ keysIn clauses) others) := by
  induction clauses generalizing taken with
  | nil =>
      rw [keysIn_nil, List.append_nil]
      rfl
  | cons clause rest ih =>
      rw [List.cons_append, readAll, readAll, ih, keysIn_cons, List.append_assoc]
      cases (clause.read taken).mapError (BuildError.compile clause.label?) <;> rfl

/-- Reading fails with the fault of the first clause that cannot be read, under its label. -/
theorem readAll_error_iff {taken : List String} {clauses : List Clause} {failure : BuildError} :
    readAll taken clauses = .error failure ↔
      ∃ before clause after error, clauses = before ++ clause :: after ∧
        readAll taken before = .ok () ∧ clause.read (taken ++ keysIn before) = .error error ∧
        failure = .compile clause.label? error := by
  constructor
  · intro failed
    induction clauses generalizing taken with
    | nil => cases failed
    | cons clause rest ih =>
        rw [readAll] at failed
        cases read : clause.read taken with
        | error error =>
            rw [read] at failed
            cases failed
            exact ⟨[], clause, rest, error, rfl, rfl, by simpa using read, rfl⟩
        | ok done =>
            rw [read] at failed
            obtain ⟨before, other, after, error, rfl, fine, refused, same⟩ := ih failed
            refine ⟨clause :: before, other, after, error, rfl, ?_, ?_, same⟩
            · rw [readAll, read]
              exact fine
            · simpa using refused
  · rintro ⟨before, clause, after, error, rfl, fine, refused, rfl⟩
    rw [readAll_append, fine]
    show readAll (taken ++ keysIn before) (clause :: after) = _
    rw [readAll, refused]
    rfl

/-- What is written in the clause can be read. A key always can. -/
def Clause.IsReadable : Clause → Prop
  | .tags written => ∃ set, TagSet.parse written = .ok set
  | .key _ => True
  | .passage _ written =>
    (∃ requirement?, written.requires?.mapM Requirement.parse = .ok requirement?) ∧
      ∃ impacts, Impact.parseList written.impact? = .ok impacts

theorem Clause.read_ok_iff {taken : List String} {clause : Clause} :
    clause.read taken = .ok () ↔ clause.IsReadable ∧ ∀ key ∈ clause.keys, key ∉ taken := by
  cases clause with
  | tags written =>
      simp only [read, IsReadable, keys]
      cases TagSet.parse written <;> simp [Except.map]
  | key key? =>
      simp only [read, IsReadable, keys]
      cases key?.filter (· ≠ "") with
      | none => simp
      | some key => by_cases there : key ∈ taken <;> simp [there]
  | passage label passage =>
      simp only [read, IsReadable, keys]
      cases passage.requires?.mapM Requirement.parse with
      | error error => simp [bind, Except.bind]
      | ok requirement? =>
          cases Impact.parseList passage.impact? <;> simp [bind, Except.bind, pure, Except.pure]

theorem Clause.nodup_keys (clause : Clause) : clause.keys.Nodup := by
  cases clause with
  | key key? =>
      rw [keys]
      cases key?.filter (· ≠ "") <;> simp
  | tags | passage => exact .nil

/-- Reading comes to its end exactly if every clause can be read and no key is taken twice. -/
theorem readAll_ok_iff {taken : List String} (distinct : taken.Nodup) {clauses : List Clause} :
    readAll taken clauses = .ok () ↔
      (∀ clause ∈ clauses, clause.IsReadable) ∧ (taken ++ keysIn clauses).Nodup := by
  induction clauses generalizing taken with
  | nil => simpa [readAll] using distinct
  | cons clause rest ih =>
      have first : (clause.read taken).mapError (BuildError.compile clause.label?) = .ok () ↔
          clause.read taken = .ok () := by
        cases clause.read taken <;> simp [Except.mapError]
      have extended : (taken ++ clause.keys).Nodup ↔ ∀ key ∈ clause.keys, key ∉ taken := by
        rw [List.nodup_append]
        simp only [distinct, clause.nodup_keys, true_and]
        constructor
        · intro apart key member there
          exact apart key there key member rfl
        · rintro free key there _ member rfl
          exact free key member there
      rw [readAll, bind_eq_ok]
      simp only [first, exists_const, Clause.read_ok_iff, List.forall_mem_cons, keysIn_cons]
      rw [← List.append_assoc]
      constructor
      · rintro ⟨⟨readable, free⟩, others⟩
        obtain ⟨all, nodup⟩ := (ih (extended.2 free)).1 others
        exact ⟨⟨readable, all⟩, nodup⟩
      · rintro ⟨⟨readable, all⟩, nodup⟩
        have now : (taken ++ clause.keys).Nodup := (List.nodup_append.1 nodup).1
        exact ⟨⟨readable, extended.1 now⟩, (ih now).2 ⟨all, nodup⟩⟩

/-! ### What building reads -/

/-- The outcome is that of reading some clauses. -/
def Reads {α : Type} (taken : List String) (clauses : List Clause) (outcome : Building α) : Prop :=
  outcome.map (fun _ => ()) = readAll taken clauses

namespace Reads

variable {α β : Type} {taken : List String} {clauses others : List Clause} {first : Building α}
  {next : α → Building β}

theorem bind (reads : Reads taken clauses first)
    (continues : ∀ value, first = .ok value → Reads (taken ++ keysIn clauses) others (next value)) :
    Reads taken (clauses ++ others) (first >>= next) := by
  unfold Reads at *
  rw [readAll_append, ← reads]
  cases first with
  | error error => rfl
  | ok value => exact continues value rfl

theorem returns (reads : Reads taken clauses first) (change : α → β) :
    Reads taken clauses (do return change (← first)) := by
  unfold Reads at *
  rw [← reads]
  cases first <;> rfl

theorem error_iff (reads : Reads taken clauses first) {failure : BuildError} :
    first = .error failure ↔ readAll taken clauses = .error failure := by
  rw [← reads, map_eq_error]

theorem ok_iff (reads : Reads taken clauses first) :
    (∃ value, first = .ok value) ↔ readAll taken clauses = .ok () := by
  rw [← reads, map_eq_ok]
  simp

theorem mapM {entries : List α} {step : α → Building β} {clauses : α → List Clause}
    (keyless : ∀ entry, keysIn (clauses entry) = [])
    (each : ∀ entry, Reads taken (clauses entry) (step entry)) :
    Reads taken (entries.flatMap clauses) (entries.mapM step) := by
  induction entries with
  | nil => rfl
  | cons entry rest ih =>
      rw [List.mapM_cons, List.flatMap_cons]
      apply (each entry).bind
      intro value _
      rw [keyless, List.append_nil]
      exact ih.returns _

end Reads

theorem reads_tags (taken : List String) (written : Option TagText) :
    Reads taken [.tags written] (buildTags written) := by
  unfold Reads buildTags readAll
  rw [Clause.read]
  cases TagSet.parse written <;> rfl

/-- A key is checked against those before it that are not empty. -/
theorem reads_key (taken : List String) (key? : Option String) :
    Reads (taken.filter (· ≠ "")) [.key key?] (checkKey taken key?) := by
  unfold Reads checkKey readAll
  cases key? with
  | none => rfl
  | some key =>
      by_cases empty : key = ""
      · subst empty
        rfl
      · have given : (some key).filter (· ≠ "") = some key := by simp [empty]
        simp only [Clause.read, given]
        by_cases there : key ∈ taken <;> simp [empty, there] <;> rfl

/-- The key of an entity is checked after its tags, which take none. -/
theorem reads_key_after_tags (taken : List String) (tags? : Option TagText) (key? : Option String) :
    Reads (taken.filter (· ≠ "") ++ keysIn [.tags tags?]) [.key key?] (checkKey taken key?) := by
  have keyless : keysIn [.tags tags?] = [] := rfl
  rw [keyless, List.append_nil]
  exact reads_key taken key?

theorem reads_passage (taken : List String) (passage : Passage) (correlation : Correlation)
    (owner : Nat) (label : String) :
    Reads taken [.passage label passage] (passage.build correlation owner label) := by
  unfold Reads Passage.build readAll
  rw [Clause.read]
  cases passage.requires?.mapM Requirement.parse with
  | error error => rfl
  | ok requirement? => cases Impact.parseList passage.impact? <;> rfl

mutual

theorem reads_descriptor : ∀ (taken : List String) (owner : Nat) (label : String)
    (descriptor : Descriptor),
    Reads taken (descriptor.clauses label) (Descriptor.build owner label descriptor)
  | taken, owner, label, ⟨passage, correlation, descriptors⟩ => by
      rw [Descriptor.build, Descriptor.clauses]
      apply (reads_passage taken passage correlation owner label).bind
      intro own _
      exact (reads_descriptors _ owner label 0 descriptors).returns _

theorem reads_descriptors : ∀ (taken : List String) (owner : Nat) (label : String)
    (position : Nat) (descriptors : List Descriptor),
    Reads taken (Descriptor.clausesAll label position descriptors)
      (Descriptor.buildAll owner label position descriptors)
  | _, _, _, _, [] => rfl
  | taken, owner, label, position, descriptor :: rest => by
      rw [Descriptor.buildAll, Descriptor.clausesAll]
      apply (reads_descriptor taken owner (Label.descriptor label position) descriptor).bind
      intro node _
      exact (reads_descriptors _ owner label (position + 1) rest).returns _

end

theorem reads_interactions (taken : List String) (owner : Nat) (label : String)
    (interactions : List Interaction) :
    Reads taken (interactions.flatMap (Interaction.clauses label))
      (interactions.mapM (Interaction.build owner label)) := by
  apply Reads.mapM fun _ => keysIn_descriptor _ _
  intro interaction
  exact (reads_descriptor _ _ _ _).returns _

theorem reads_combinations (taken : List String) (owner : Nat) (label : String)
    (combinations : List Combination) :
    Reads taken (combinations.flatMap (Combination.clauses label))
      (combinations.mapM (Combination.build owner label)) := by
  apply Reads.mapM fun _ => keysIn_descriptor _ _
  intro combination
  exact (reads_descriptor _ _ _ _).returns _

/-! ### Entities

The keys that building carries along may hold an empty one, which is never looked for; without it they
are the keys of the clauses before. -/

theorem keysOf_cons (entity : Entity) (rest : List Entity) :
    keysOf (entity :: rest) = entity.lookupKey?.toList ++ keysOf rest := by
  unfold keysOf
  rw [List.filterMap_cons]
  cases entity.lookupKey? <;> rfl

/-- The keys of the entities of a block are those of its clauses. -/
theorem keysOf_of_isImage {spots : List Spot} {entities : List Entity}
    (images : List.Forall₂ Spot.IsImage spots entities) :
    keysOf entities = keysIn (spots.flatMap (·.location.clauses)) := by
  induction images with
  | nil => rfl
  | @cons spot entity _ _ image _ ih =>
      rw [List.flatMap_cons, keysIn_append, keysIn_location, ← ih, ← image.key, keysOf_cons]
      rfl

theorem filter_keysOf (entities : List Entity) :
    (keysOf entities).filter (· ≠ "") = keysOf entities := by
  apply List.filter_eq_self.2
  intro key member
  obtain ⟨entity, _, looked⟩ := List.mem_filterMap.1 member
  exact (Option.filter_eq_some_iff.1 looked).2

mutual

theorem Location.reads_build : ∀ (parent? : Option Nat) (taken : List String) (number : Nat)
    (location : Location),
    Reads (taken.filter (· ≠ "")) ((location.outline parent? number).flatMap (·.location.clauses))
      (Location.build parent? taken number location)
  | parent?, taken, number, ⟨name, key?, tags?, passage, disableExit, descriptors, locations,
      interactions, combinations⟩ => by
      rw [Location.build, Location.outline, List.flatMap_cons, Location.clauses]
      simp only [List.cons_append, List.append_assoc]
      apply (reads_tags _ tags?).bind
      intro tags _
      apply (reads_key_after_tags taken tags? key?).bind
      intro _ _
      apply (reads_descriptor _ _ _ _).bind
      intro node _
      apply (reads_interactions _ _ _ interactions).bind
      intro acts _
      apply (reads_combinations _ _ _ combinations).bind
      intro uses _
      apply Reads.returns
      have known : taken.filter (· ≠ "") ++ (key?.filter (· ≠ "")).toList =
          (taken ++ key?.toList).filter (· ≠ "") := by
        rw [List.filter_append, Option.toList_filter]
      simp only [keysIn_cons, keysIn_nil, keysIn_descriptor, keysIn_interactions,
        keysIn_combinations, Clause.keys, List.append_nil, known]
      exact Location.reads_buildAll (some number) (taken ++ key?.toList) (number + 1) locations

theorem Location.reads_buildAll : ∀ (parent? : Option Nat) (taken : List String) (number : Nat)
    (locations : List Location),
    Reads (taken.filter (· ≠ ""))
      ((Location.outlineAll parent? number locations).flatMap (·.location.clauses))
      (Location.buildAll parent? taken number locations)
  | _, _, _, [] => rfl
  | parent?, taken, number, location :: rest => by
      rw [Location.buildAll, Location.outlineAll, List.flatMap_append]
      apply (Location.reads_build parent? taken number location).bind
      intro block built
      have known : taken.filter (· ≠ "") ++
          keysIn ((location.outline parent? number).flatMap (·.location.clauses)) =
            (taken ++ keysOf block).filter (· ≠ "") := by
        rw [List.filter_append, filter_keysOf, keysOf_of_isImage (Location.isImage_of_build built)]
      rw [known, Location.length_of_build built]
      exact (Location.reads_buildAll parent? _ (number + location.size) rest).returns _

end

theorem Item.reads_build (taken : List String) (number : Nat) (item : Item) :
    Reads (taken.filter (· ≠ "")) item.clauses (item.build taken number) := by
  unfold Item.build Item.clauses
  apply (reads_tags _ item.tags?).bind
  intro tags _
  apply (reads_key_after_tags taken item.tags? item.key?).bind
  intro _ _
  apply (reads_descriptor _ _ _ _).bind
  intro node _
  exact (reads_combinations _ _ _ item.combinations).returns _

theorem Item.reads_buildAll (taken : List String) (number : Nat) (items : List Item) :
    Reads (taken.filter (· ≠ "")) (items.flatMap Item.clauses) (Item.buildAll taken number items) := by
  induction items generalizing taken number with
  | nil => rfl
  | cons item rest ih =>
      rw [Item.buildAll, List.flatMap_cons]
      apply (Item.reads_build taken number item).bind
      intro entity built
      have known : taken.filter (· ≠ "") ++ keysIn item.clauses =
          (taken ++ keysOf [entity]).filter (· ≠ "") := by
        rw [List.filter_append, filter_keysOf, keysIn_item, ← (Item.isImage_of_build built).key,
          keysOf_cons]
        exact congrArg _ (List.append_nil _).symm
      rw [known]
      exact (ih _ _).returns _

/-- Building the entities of a world reads their clauses. -/
theorem World.reads_entities (world : World) : Reads [] world.entityClauses world.entities := by
  unfold World.entities World.entityClauses
  apply (Location.reads_buildAll none [] 0 world.locations).bind
  intro blocks built
  have images := Location.isImage_of_buildAll built
  have known : [] ++ keysIn (world.outline.flatMap (·.location.clauses)) =
      (keysOf blocks.flatten).filter (· ≠ "") := by
    rw [filter_keysOf, keysOf_of_isImage images]
    rfl
  rw [World.outline] at known
  show Reads ([] ++ _) _ _
  rw [known]
  exact (Item.reads_buildAll _ _ world.items).returns _

/-! ### Worlds -/

/-- The world that a definition gives before its story begins. -/
def World.prepared (world : World) (bus : Bus Handler) : Building Narrative.World := do
  let player ← buildTags world.player.tags?
  let inventory ← buildTags world.player.inventory?
  return { entities := ← world.entities, player, inventory, focus := 0, bus }

theorem World.reads_prepared (world : World) (bus : Bus Handler) :
    Reads [] world.clauses (world.prepared bus) := by
  unfold World.prepared World.clauses
  apply (reads_tags [] world.player.tags?).bind
  intro player _
  apply (reads_tags _ world.player.inventory?).bind
  intro inventory _
  exact world.reads_entities.returns _

/-- What is built is the prepared world, with its story begun at the start. -/
theorem World.build_eq (world : World) (bus : Bus Handler) :
    world.build bus = (do
      let prepared ← world.prepared bus
      match prepared.resolveLocation? world.start with
      | none => .error (.start world.start)
      | some start =>
        return (Narrative.World.emit (.focusChanged none start)
          { prepared with focus := start }).emit (.focusGained start)) := by
  unfold World.build World.prepared
  cases buildTags world.player.tags? with
  | error failure => rfl
  | ok player =>
      cases buildTags world.player.inventory? with
      | error failure => rfl
      | ok inventory => cases world.entities <;> rfl

/-- Building fails with a fault of a clause exactly if reading the clauses does. -/
theorem World.build_compile_iff {world : World} {bus : Bus Handler} {label? : Option String}
    {error : CompileError} :
    world.build bus = .error (.compile label? error) ↔
      readAll [] world.clauses = .error (.compile label? error) := by
  rw [build_eq, bind_eq_error, ← (world.reads_prepared bus).error_iff]
  constructor
  · rintro (failed | ⟨prepared, _, ended⟩)
    · exact failed
    · -- Once the world is prepared, all that can be missing is its start.
      split at ended <;> cases ended
  · exact .inl

end Narrative.Model
