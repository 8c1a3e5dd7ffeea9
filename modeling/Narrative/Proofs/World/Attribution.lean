/-
Module: Narrative.Proofs.World.Attribution
Purpose: What an author is told about a definition that cannot be built. A fault in a passage is recorded
  once, under the label that the walk over the nodes of a world gives to the passage; a fault in tags or
  in a key is not recorded.
Main exports: Model.Clause.named?, Model.World.FailsAt, Model.World.named_sites, Model.World.faults_attributed
-/
import Narrative.Proofs.World.Failure
import Narrative.Proofs.World.Site

namespace Narrative.Model

/-! ### Labels

The clauses of a world name its passages one after the other. In the world that is built from them, the
walk over its nodes comes to the passages in the same order, and calls them the same. -/

/-- The passage of a clause with its label, unless it is one of tags or of a key. -/
def Clause.named? : Clause → Option (String × Passage)
  | .tags _ | .key _ => none
  | .passage label written => some (label, written)

/-- The passages among clauses, with their labels. -/
def entriesOf (clauses : List Clause) : List (String × Passage) := clauses.filterMap (·.named?)

/-- What a definition calls its passages, one after the other. -/
def World.labels (world : World) : List String := (entriesOf world.clauses).map (·.1)

/-- The site is called by the label, and its passage is that which was written. -/
structure Named (entry : String × Passage) (site : Site) : Prop where
  label : site.label = entry.1
  passage : ∃ owner correlation, entry.2.IsImage owner correlation site.passage

@[simp] theorem entriesOf_tags (written : Option TagText) (rest : List Clause) :
    entriesOf (.tags written :: rest) = entriesOf rest := rfl

@[simp] theorem entriesOf_key (key? : Option String) (rest : List Clause) :
    entriesOf (.key key? :: rest) = entriesOf rest := rfl

@[simp] theorem entriesOf_append (clauses others : List Clause) :
    entriesOf (clauses ++ others) = entriesOf clauses ++ entriesOf others :=
  List.filterMap_append

mutual

theorem named_descriptor : ∀ {owner : Nat} (label : String) (kind : SiteKind) (path : NodePath)
    {descriptor : Descriptor} {node : Node}, Descriptor.IsImage owner descriptor node →
      List.Forall₂ Named (entriesOf (descriptor.clauses label)) (node.sites label kind path)
  | owner, label, kind, path, ⟨passage, correlation, descriptors⟩, _, .intro own below => by
      rw [Descriptor.clauses, Node.sites]
      exact .cons ⟨rfl, owner, correlation, own⟩ (named_descriptors label path 0 below)

theorem named_descriptors : ∀ {owner : Nat} (label : String) (path : NodePath) (position : Nat)
    {descriptors : List Descriptor} {nodes : List Node},
    List.Forall₂ (Descriptor.IsImage owner) descriptors nodes →
      List.Forall₂ Named (entriesOf (Descriptor.clausesAll label position descriptors))
        (Node.descriptorSites label path position nodes)
  | _, _, _, _, [], _, .nil => .nil
  | owner, label, path, position, descriptor :: rest, _, .cons image images => by
      rw [Descriptor.clausesAll, entriesOf_append, Node.descriptorSites]
      exact List.rel_append (named_descriptor _ _ _ image)
        (named_descriptors label path (position + 1) images)

end

/-- Where each entry has the names of its image, wherever the image stands, all entries together have
those of all images. -/
theorem named_flatMap {α β : Type} {Related : α → β → Prop} {clauses : α → List Clause}
    {sites : β × Nat → List Site}
    (each : ∀ entry image position, Related entry image →
      List.Forall₂ Named (entriesOf (clauses entry)) (sites (image, position)))
    {entries : List α} {images : List β} (related : List.Forall₂ Related entries images)
    (first : Nat) :
    List.Forall₂ Named (entriesOf (entries.flatMap clauses)) ((images.zipIdx first).flatMap sites) := by
  induction related generalizing first with
  | nil => exact .nil
  | cons here _ ih =>
      rw [List.flatMap_cons, entriesOf_append, List.zipIdx_cons, List.flatMap_cons]
      exact List.rel_append (each _ _ first here) (ih (first + 1))

theorem label_eq {entity : Entity} {key? : Option String} {name : String}
    (same_key : entity.key? = key?) (same_name : entity.name = name) :
    entity.label = labelOf key? name := by
  rw [← same_key, ← same_name]
  rfl

theorem Spot.IsImage.named_sites {spot : Spot} {entity : Entity} (image : spot.IsImage entity) (number : Nat) :
    List.Forall₂ Named (entriesOf spot.location.clauses) (entity.sites number) := by
  obtain ⟨place, placed, _, _, _, interactions⟩ := image.place
  have located : entity.isLocation = true := by simp [Entity.isLocation, placed]
  have acts : entity.interactions = place.interactions := by simp [Entity.interactions, placed]
  unfold Location.clauses Entity.sites
  simp only [located, if_true, acts, label_eq image.key image.name, entriesOf_tags, entriesOf_key,
    entriesOf_append]
  refine List.rel_append (List.rel_append ?_ ?_) ?_
  · exact named_descriptor _ _ _ image.node
  · exact named_flatMap (fun interaction act _ same => same.name ▸ named_descriptor _ _ _ same.node)
      interactions 0
  · exact named_flatMap (fun combination use _ same => same.target ▸ named_descriptor _ _ _ same.node)
      image.combinations 0

theorem Item.IsImage.named_sites {item : Item} {owner : Nat} {entity : Entity}
    (image : item.IsImage owner entity) (number : Nat) :
    List.Forall₂ Named (entriesOf item.clauses) (entity.sites number) := by
  have located : entity.isLocation = false := by simp [Entity.isLocation, image.place]
  have acts : entity.interactions = [] := by simp [Entity.interactions, image.place]
  unfold Item.clauses Entity.sites
  simp only [located, Bool.false_eq_true, if_false, acts, label_eq image.key image.name, entriesOf_tags,
    entriesOf_key, entriesOf_append, List.zipIdx_nil, List.flatMap_nil, List.append_nil]
  refine List.rel_append ?_ ?_
  · exact named_descriptor _ _ _ image.node
  · exact named_flatMap (fun combination use _ same => same.target ▸ named_descriptor _ _ _ same.node)
      image.combinations 0

/-- The walk over the nodes of a world that was built calls each passage as its definition does. -/
theorem World.named_sites {model : World} {bus : Bus Handler} {world : Narrative.World}
    (built : model.build bus = .ok world) :
    List.Forall₂ Named (entriesOf model.clauses) world.sites := by
  obtain ⟨locations, items, parts, location_images, item_images⟩ :=
    (World.isFaithful_of_build built).entities
  have numbered : model.items.flatMap Item.clauses =
      (model.items.zipIdx model.outline.length).flatMap (·.1.clauses) := by
    conv => lhs; rw [← List.zipIdx_map_fst model.outline.length model.items]
    rw [List.flatMap_map]
  rw [World.clauses, entriesOf_tags, entriesOf_tags, World.entityClauses, entriesOf_append, numbered,
    World.sites, parts, List.zipIdx_append, List.flatMap_append]
  apply List.rel_append
  · exact named_flatMap (fun _ _ number image => image.named_sites number) location_images 0
  · exact named_flatMap (fun _ _ number image => image.named_sites number) item_images _

/-! ### Faults -/

/-- The clause is the first that cannot be read. -/
def World.FailsAt (world : World) (clause : Clause) (error : CompileError) : Prop :=
  ∃ before after, world.clauses = before ++ clause :: after ∧ readAll [] before = .ok () ∧
    clause.read (keysIn before) = .error error

theorem World.build_compile_iff_failsAt {world : World} {bus : Bus Handler} {label? : Option String}
    {error : CompileError} :
    world.build bus = .error (.compile label? error) ↔
      ∃ clause, world.FailsAt clause error ∧ clause.label? = label? := by
  rw [build_compile_iff, readAll_error_iff]
  constructor
  · rintro ⟨before, clause, after, _, parts, fine, refused, same⟩
    cases same
    exact ⟨clause, ⟨before, after, parts, fine, refused⟩, rfl⟩
  · rintro ⟨clause, ⟨before, after, parts, fine, refused⟩, rfl⟩
    exact ⟨before, clause, after, error, parts, fine, refused, rfl⟩

/-- A fault of a clause that is no passage is not recorded. -/
theorem Clause.records_of_named? {clause : Clause} (unnamed : clause.named? = none)
    (error : CompileError) : (BuildError.compile clause.label? error).records = [] := by
  cases clause with
  | passage => cases unnamed
  | tags | key => rfl

/-- In every world whose definition calls its passages as this one does, the walk comes to the same label
at the same position. -/
theorem World.label_of_labels {model mended : World} {bus : Bus Handler} {world : Narrative.World}
    (alike : mended.labels = model.labels) (built : mended.build bus = .ok world) {position : Nat}
    {label : String} {passage : Passage}
    (there : (entriesOf model.clauses)[position]? = some (label, passage)) :
    world.sites[position]?.map (·.label) = some label := by
  have walked : world.sites.map (·.label) = mended.labels := by
    have named : List.Forall₂ Eq mended.labels (world.sites.map (·.label)) := by
      rw [labels, List.forall₂_map_left_iff, List.forall₂_map_right_iff]
      exact (World.named_sites built).imp fun _ _ same => same.label.symm
    rw [List.forall₂_eq_eq_eq] at named
    exact named.symm
  rw [← List.getElem?_map, walked, alike, labels, List.getElem?_map, there]
  rfl

/-- What is recorded when a world cannot be built. If the first clause that cannot be read is a passage,
its fault is recorded once, under the label to which the walk over the nodes comes at its position in every
world whose definition calls its passages alike. If it is one of tags or of a key, nothing is recorded.
There are no other faults of a definition. -/
theorem World.faults_attributed (model : World) (bus : Bus Handler) :
    (∀ label passage error, model.FailsAt (.passage label passage) error →
      ∃ failure, model.build bus = .error failure ∧ failure.message = error.message ∧
        failure.records =
          [⟨.error, .builder, "Cannot compile " ++ label ++ ": " ++ error.message⟩] ∧
        ∃ position : Nat, (entriesOf model.clauses)[position]? = some (label, passage) ∧
          ∀ (mended : World) (bus : Bus Handler) (world : Narrative.World),
            mended.labels = model.labels → mended.build bus = .ok world →
              world.sites[position]?.map (·.label) = some label) ∧
    (∀ clause error, model.FailsAt clause error → clause.named? = none →
      ∃ failure, model.build bus = .error failure ∧ failure.message = error.message ∧
        failure.records = []) ∧
    ∀ label? error, model.build bus = .error (.compile label? error) →
      ∃ clause, model.FailsAt clause error := by
  refine ⟨?_, ?_, ?_⟩
  · intro label passage error fails
    have failed : model.build bus = .error (.compile (some label) error) :=
      World.build_compile_iff_failsAt.2 ⟨_, fails, rfl⟩
    obtain ⟨before, after, parts, _, _⟩ := fails
    have there : (entriesOf model.clauses)[(entriesOf before).length]? = some (label, passage) := by
      rw [parts, entriesOf_append, List.getElem?_append_right (Nat.le_refl _), Nat.sub_self]
      rfl
    refine ⟨_, failed, rfl, rfl, _, there, ?_⟩
    intro mended bus world alike built
    exact World.label_of_labels alike built there
  · intro clause error fails unnamed
    have failed : model.build bus = .error (.compile clause.label? error) :=
      World.build_compile_iff_failsAt.2 ⟨_, fails, rfl⟩
    exact ⟨_, failed, rfl, Clause.records_of_named? unnamed error⟩
  · intro label? error failed
    obtain ⟨clause, fails, _⟩ := World.build_compile_iff_failsAt.1 failed
    exact ⟨clause, fails⟩

/-- A loft whose trapdoor has a requirement that ends before its last operand. -/
def gratingLoft : Location := { loft with
  descriptors := [⟨{ description? := some "A trapdoor.", requires? := some "!barn.open +" }, .none,
    [⟨{ description? := some "It is shut.", impact? := some "+seen" }, .otherwise, []⟩]⟩] }

/-- A loft whose tags are not separated. -/
def gloomyLoft : Location := { loft with tags? := some (.line "very dark") }

/-- The fault of the trapdoor is recorded under the label that the trapdoor has in the world in which it is
mended; that of the tags is only raised. -/
theorem World.faults_attributed_lofts :
    (∃ failure, World.build { barn with locations := [gratingLoft] } {} = .error failure ∧
      failure.records = [⟨.error, .builder, "Cannot compile location 'loft' > descriptor 1: " ++
        "Could not parse expression: \"!barn.open +\" (missing operand)"⟩] ∧
      ∃ (world : Narrative.World) (position : Nat),
        World.build { barn with locations := [loft] } {} = .ok world ∧
          world.sites[position]?.map (·.label) = some "location 'loft' > descriptor 1") ∧
    ∃ failure, World.build { barn with locations := [gloomyLoft] } {} = .error failure ∧
      failure.message =
        "Could not parse expression: \"very dark\" (tags may not contain whitespace)" ∧
      failure.records = [] := by
  constructor
  · have failed : World.build { barn with locations := [gratingLoft] } {} =
        .error (.compile (some "location 'loft' > descriptor 1")
          (.invalidExpression "!barn.open +" .missingOperand)) :=
      eq_error_of_failureOf? (by decide +kernel)
    obtain ⟨clause, fails, called⟩ := World.build_compile_iff_failsAt.1 failed
    have mends : (World.build { barn with locations := [loft] } {}).isOk = true := by decide +kernel
    cases built : World.build { barn with locations := [loft] } {} with
    | error failure =>
        rw [built] at mends
        cases mends
    | ok world =>
        cases clause with
        | passage label written =>
            cases called
            obtain ⟨failure, failed, _, recorded, position, _, walked⟩ :=
              (World.faults_attributed _ {}).1 _ _ _ fails
            exact ⟨failure, failed, recorded, world, position, rfl,
              walked _ {} world (by decide +kernel) built⟩
        | tags | key => cases called
  · have failed : World.build { barn with locations := [gloomyLoft] } {} =
        .error (.compile none (.invalidExpression "very dark" .blankInTag)) :=
      eq_error_of_failureOf? (by decide +kernel)
    obtain ⟨clause, fails, called⟩ := World.build_compile_iff_failsAt.1 failed
    have unnamed : clause.named? = none := by
      cases clause with
      | passage => cases called
      | tags | key => rfl
    exact (World.faults_attributed _ {}).2.1 _ _ fails unnamed

end Narrative.Model
