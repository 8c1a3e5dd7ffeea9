/-
Module: Narrative.Proofs.World.Walk
Purpose: The walk over the nodes of a world that was built. It comes to every node once, and calls it as a
  fault of the node is called: if the passage of the node is rewritten in the definition so that it cannot
  be read, building fails with just that name.
Main exports: Model.World.rewrite, Model.Rewrites, Model.World.rewrites, Model.Passage.Refused,
  Model.World.walk_complete
-/
import Narrative.Proofs.World.Attribution

namespace Narrative.Model

/-! ### Definitions with a passage rewritten -/

/-- The descriptor with another passage for the one on a way down from it. -/
def Descriptor.rewrite (passage : Passage) : List Nat → Descriptor → Descriptor
  | [], descriptor => { descriptor with passage }
  | position :: below, descriptor =>
    { descriptor with
      descriptors := descriptor.descriptors.modify position (Descriptor.rewrite passage below) }

/-- What is told of an interaction, as a descriptor. -/
def Interaction.body (interaction : Interaction) : Descriptor :=
  ⟨interaction.passage, .none, interaction.descriptors⟩

/-- What is told of a combination. -/
def Combination.body (combination : Combination) : Descriptor :=
  ⟨combination.passage, .none, combination.descriptors⟩

/-- What is told of a location itself. -/
def Location.body (location : Location) : Descriptor := ⟨location.passage, .none, location.descriptors⟩

/-- What is told of an item itself. -/
def Item.body (item : Item) : Descriptor := ⟨item.passage, .none, item.descriptors⟩

/-- The interaction with another passage for its own or for that of a descriptor below. -/
def Interaction.rewrite (passage : Passage) (below : List Nat) (interaction : Interaction) :
    Interaction :=
  let body := interaction.body.rewrite passage below
  { interaction with passage := body.passage, descriptors := body.descriptors }

/-- The combination with another passage for its own or for that of a descriptor below. -/
def Combination.rewrite (passage : Passage) (below : List Nat) (combination : Combination) :
    Combination :=
  let body := combination.body.rewrite passage below
  { combination with passage := body.passage, descriptors := body.descriptors }

/-- The location with another passage in one of its parts. The locations inside it stay as they are. -/
def Location.rewrite (passage : Passage) (slot : Slot) (below : List Nat) (location : Location) :
    Location :=
  match slot with
  | .body =>
    let body := location.body.rewrite passage below
    { location with passage := body.passage, descriptors := body.descriptors }
  | .interaction position =>
    { location with
      interactions := location.interactions.modify position (Interaction.rewrite passage below) }
  | .combination position =>
    { location with
      combinations := location.combinations.modify position (Combination.rewrite passage below) }

/-- The item with another passage in one of its parts. -/
def Item.rewrite (passage : Passage) (slot : Slot) (below : List Nat) (item : Item) : Item :=
  match slot with
  | .body =>
    let body := item.body.rewrite passage below
    { item with passage := body.passage, descriptors := body.descriptors }
  | .interaction _ => item
  | .combination position =>
    { item with
      combinations := item.combinations.modify position (Combination.rewrite passage below) }

mutual

/-- A location that has a number, with another passage at a path in it or in a location inside it. -/
def Location.rewriteAt (passage : Passage) (path : NodePath) (number : Nat) : Location → Location
  | ⟨name, key?, tags?, own, disableExit, descriptors, locations, interactions, combinations⟩ =>
    let location : Location := ⟨name, key?, tags?, own, disableExit, descriptors,
      Location.rewriteAll passage path (number + 1) locations, interactions, combinations⟩
    if path.entity = number then location.rewrite passage path.slot path.below else location

/-- Locations numbered from a number on, with another passage at a path in one of them. -/
def Location.rewriteAll (passage : Passage) (path : NodePath) :
    (number : Nat) → List Location → List Location
  | _, [] => []
  | number, location :: rest =>
    Location.rewriteAt passage path number location ::
      Location.rewriteAll passage path (number + location.size) rest

end

/-- The definition with another passage at a path. Items are numbered after the locations. -/
def World.rewrite (passage : Passage) (path : NodePath) (world : World) : World :=
  { world with
    locations := Location.rewriteAll passage path 0 world.locations
    items := if path.entity < world.outline.length then world.items
      else world.items.modify (path.entity - world.outline.length)
        (Item.rewrite passage path.slot path.below) }

/-! ### What is read of them -/

/-- Among the clauses is the passage that the site has, under the label of the site, and rewriting puts
another in its place. -/
def Rewrites (site : Site) (clauses : List Clause) (rewritten : Passage → List Clause) : Prop :=
  ∃ before own after, clauses = before ++ .passage site.label own :: after ∧
    (∃ owner correlation, own.IsImage owner correlation site.passage) ∧
    ∀ passage, rewritten passage = before ++ .passage site.label passage :: after

section

variable {site : Site} {clauses : List Clause} {rewritten : Passage → List Clause}

theorem Rewrites.append (rewrites : Rewrites site clauses rewritten) (others : List Clause) :
    Rewrites site (clauses ++ others) (rewritten · ++ others) := by
  obtain ⟨before, own, after, parts, image, rewriting⟩ := rewrites
  refine ⟨before, own, after ++ others, ?_, image, fun passage => ?_⟩
  · rw [parts, List.append_assoc, List.cons_append]
  · dsimp only
    rw [rewriting, List.append_assoc, List.cons_append]

theorem Rewrites.behind (rewrites : Rewrites site clauses rewritten) (others : List Clause) :
    Rewrites site (others ++ clauses) (others ++ rewritten ·) := by
  obtain ⟨before, own, after, parts, image, rewriting⟩ := rewrites
  refine ⟨others ++ before, own, after, ?_, image, fun passage => ?_⟩
  · rw [parts, List.append_assoc]
  · dsimp only
    rw [rewriting, List.append_assoc]

end

mutual

theorem rewrites_descriptor : ∀ {owner : Nat} (label : String) (kind : SiteKind) (path : NodePath)
    {descriptor : Descriptor} {node : Node}, Descriptor.IsImage owner descriptor node →
      ∀ site ∈ node.sites label kind path, ∃ below,
        site.path = { path with below := path.below ++ below } ∧
          Rewrites site (descriptor.clauses label) fun passage =>
            (descriptor.rewrite passage below).clauses label
  | owner, label, kind, path, ⟨own, correlation, descriptors⟩, _, .intro image below, site, visited => by
      rw [Node.sites] at visited
      rcases List.mem_cons.1 visited with rfl | visited
      · refine ⟨[], by simp, [], own, Descriptor.clausesAll label 0 descriptors, ?_⟩
        exact ⟨rfl, ⟨owner, correlation, image⟩, fun passage => rfl⟩
      · obtain ⟨index, way, located, rewrites⟩ := rewrites_descriptors label path 0 below site visited
        refine ⟨index :: way, by simpa using located, ?_⟩
        exact rewrites.behind [.passage label own]

theorem rewrites_descriptors : ∀ {owner : Nat} (label : String) (path : NodePath) (position : Nat)
    {descriptors : List Descriptor} {nodes : List Node},
    List.Forall₂ (Descriptor.IsImage owner) descriptors nodes →
      ∀ site ∈ Node.descriptorSites label path position nodes, ∃ index below,
        site.path = { path with below := path.below ++ (position + index) :: below } ∧
          Rewrites site (Descriptor.clausesAll label position descriptors) fun passage =>
            Descriptor.clausesAll label position
              (descriptors.modify index (Descriptor.rewrite passage below))
  | _, _, _, _, [], _, .nil, _, visited => by cases visited
  | owner, label, path, position, descriptor :: rest, node :: nodes, .cons image images, site,
      visited => by
      rw [Node.descriptorSites] at visited
      rcases List.mem_append.1 visited with here | later
      · obtain ⟨below, located, rewrites⟩ := rewrites_descriptor _ _ _ image site here
        refine ⟨0, below, by simpa using located, ?_⟩
        exact rewrites.append (Descriptor.clausesAll label (position + 1) rest)
      · obtain ⟨index, below, located, rewrites⟩ :=
          rewrites_descriptors label path (position + 1) images site later
        refine ⟨index + 1, below, ?_, ?_⟩
        · rw [located, Nat.add_right_comm, Nat.add_assoc]
        · exact rewrites.behind (Descriptor.clauses (Label.descriptor label position) descriptor)

end

/-- Where rewriting an entry shows in the clauses of the entry, wherever its image stands, rewriting one of
all entries shows in the clauses of all. -/
theorem rewrites_flatMap {α β γ : Type} {Related : α → β → Prop} {clauses : α → List Clause}
    {sites : β × Nat → List Site} (place : Nat → γ → NodePath) (change : γ → Passage → α → α)
    (each : ∀ entry image position, Related entry image → ∀ site ∈ sites (image, position),
      ∃ way, site.path = place position way ∧
        Rewrites site (clauses entry) fun passage => clauses (change way passage entry))
    {entries : List α} {images : List β} (related : List.Forall₂ Related entries images)
    (first : Nat) : ∀ site ∈ (images.zipIdx first).flatMap sites,
      ∃ index way, index < entries.length ∧ site.path = place (first + index) way ∧
        Rewrites site (entries.flatMap clauses) fun passage =>
          (entries.modify index (change way passage)).flatMap clauses := by
  induction related generalizing first with
  | nil => exact List.forall_mem_nil _
  | @cons entry image rest images here _ ih =>
      intro site visited
      rw [List.zipIdx_cons, List.flatMap_cons] at visited
      rcases List.mem_append.1 visited with visited | later
      · obtain ⟨way, located, rewrites⟩ := each _ _ first here site visited
        refine ⟨0, way, Nat.succ_pos _, located, ?_⟩
        exact rewrites.append (rest.flatMap clauses)
      · obtain ⟨index, way, within, located, rewrites⟩ := ih (first + 1) site later
        refine ⟨index + 1, way, Nat.succ_lt_succ within, ?_, ?_⟩
        · rw [located, Nat.add_right_comm, Nat.add_assoc]
        · exact rewrites.behind (clauses entry)

/-! ### Entities -/

theorem Interaction.clauses_rewrite (label : String) (passage : Passage) (below : List Nat)
    (interaction : Interaction) :
    (interaction.rewrite passage below).clauses label =
      (interaction.body.rewrite passage below).clauses (Label.interaction label interaction.name) := by
  cases below <;> rfl

theorem Combination.clauses_rewrite (label : String) (passage : Passage) (below : List Nat)
    (combination : Combination) :
    (combination.rewrite passage below).clauses label =
      (combination.body.rewrite passage below).clauses (Label.combination label combination.item) := by
  cases below <;> rfl

theorem Interaction.IsImage.rewrites {owner : Nat} {interaction : Interaction}
    {image : Narrative.Interaction} (same : interaction.IsImage owner image) (label : String)
    (number position : Nat) :
    ∀ site ∈ image.node.sites (Label.interaction label image.name) .interaction
        ⟨number, .interaction position, []⟩, ∃ below,
      site.path = ⟨number, .interaction position, below⟩ ∧
        Rewrites site (interaction.clauses label) fun passage =>
          (interaction.rewrite passage below).clauses label := by
  simp only [Interaction.clauses_rewrite, same.name]
  exact rewrites_descriptor _ _ _ same.node

theorem Combination.IsImage.rewrites {owner : Nat} {combination : Combination}
    {image : Narrative.Combination} (same : combination.IsImage owner image) (label : String)
    (number position : Nat) :
    ∀ site ∈ image.node.sites (Label.combination label image.target) (.combination image.target)
        ⟨number, .combination position, []⟩, ∃ below,
      site.path = ⟨number, .combination position, below⟩ ∧
        Rewrites site (combination.clauses label) fun passage =>
          (combination.rewrite passage below).clauses label := by
  simp only [Combination.clauses_rewrite, same.target]
  exact rewrites_descriptor _ _ _ same.node

theorem rewrites_combinations {owner : Nat} {combinations : List Combination}
    {images : List Narrative.Combination}
    (related : List.Forall₂ (Combination.IsImage owner) combinations images) (label : String)
    (number : Nat) :
    ∀ site ∈ images.zipIdx.flatMap (fun (combination, position) =>
        combination.node.sites (Label.combination label combination.target)
          (.combination combination.target) ⟨number, .combination position, []⟩),
      ∃ position below, site.path = ⟨number, .combination position, below⟩ ∧
        Rewrites site (combinations.flatMap (Combination.clauses label)) fun passage =>
          (combinations.modify position (Combination.rewrite passage below)).flatMap
            (Combination.clauses label) := by
  intro site visited
  obtain ⟨position, below, _, located, rewrites⟩ := rewrites_flatMap
    (fun position below => ⟨number, .combination position, below⟩)
    (fun below passage => Combination.rewrite passage below)
    (fun combination image position same => same.rewrites label number position) related 0 site visited
  exact ⟨position, below, Nat.zero_add position ▸ located, rewrites⟩

theorem rewrites_interactions {owner : Nat} {interactions : List Interaction}
    {images : List Narrative.Interaction}
    (related : List.Forall₂ (Interaction.IsImage owner) interactions images) (label : String)
    (number : Nat) :
    ∀ site ∈ images.zipIdx.flatMap (fun (interaction, position) =>
        interaction.node.sites (Label.interaction label interaction.name) .interaction
          ⟨number, .interaction position, []⟩),
      ∃ position below, site.path = ⟨number, .interaction position, below⟩ ∧
        Rewrites site (interactions.flatMap (Interaction.clauses label)) fun passage =>
          (interactions.modify position (Interaction.rewrite passage below)).flatMap
            (Interaction.clauses label) := by
  intro site visited
  obtain ⟨position, below, _, located, rewrites⟩ := rewrites_flatMap
    (fun position below => ⟨number, .interaction position, below⟩)
    (fun below passage => Interaction.rewrite passage below)
    (fun interaction image position same => same.rewrites label number position) related 0 site visited
  exact ⟨position, below, Nat.zero_add position ▸ located, rewrites⟩

/-- The label of a location. -/
def Location.label (location : Location) : String :=
  Label.location (labelOf location.key? location.name)

/-- The label of an item. -/
def Item.label (item : Item) : String := Label.item (labelOf item.key? item.name)

theorem Location.clauses_rewrite_body (passage : Passage) (below : List Nat) (location : Location) :
    (location.rewrite passage .body below).clauses =
      [.tags location.tags?, .key location.key?] ++
        ((location.body.rewrite passage below).clauses location.label ++
          location.interactions.flatMap (Interaction.clauses location.label) ++
          location.combinations.flatMap (Combination.clauses location.label)) := by
  cases below <;> rfl

theorem Item.clauses_rewrite_body (passage : Passage) (below : List Nat) (item : Item) :
    (item.rewrite passage .body below).clauses =
      [.tags item.tags?, .key item.key?] ++
        ((item.body.rewrite passage below).clauses item.label ++
          item.combinations.flatMap (Combination.clauses item.label)) := by
  cases below <;> rfl

theorem Spot.IsImage.rewrites {spot : Spot} {entity : Entity} (image : spot.IsImage entity)
    (number : Nat) :
    ∀ site ∈ entity.sites number, ∃ way : Slot × List Nat, site.path = ⟨number, way.1, way.2⟩ ∧
      Rewrites site spot.location.clauses fun passage =>
        (spot.location.rewrite passage way.1 way.2).clauses := by
  intro site visited
  obtain ⟨place, placed, _, _, _, acts⟩ := image.place
  have isLocation : entity.isLocation = true := by simp [Entity.isLocation, placed]
  have there : entity.interactions = place.interactions := by simp [Entity.interactions, placed]
  simp only [Entity.sites, isLocation, if_true, there, label_eq image.key image.name, List.mem_append]
    at visited
  obtain ⟨_, _, location⟩ := spot
  rcases visited with (body | interaction) | combination
  · obtain ⟨below, located, rewrites⟩ := rewrites_descriptor _ _ _ image.node site body
    refine ⟨(.body, below), located, ?_⟩
    simp only [Location.clauses_rewrite_body]
    exact ((rewrites.append (location.interactions.flatMap (Interaction.clauses location.label))).append
      (location.combinations.flatMap (Combination.clauses location.label))).behind
        [.tags location.tags?, .key location.key?]
  · obtain ⟨position, below, located, rewrites⟩ := rewrites_interactions acts _ number site interaction
    refine ⟨(.interaction position, below), located, ?_⟩
    exact ((rewrites.behind (location.body.clauses location.label)).append
      (location.combinations.flatMap (Combination.clauses location.label))).behind
        [.tags location.tags?, .key location.key?]
  · obtain ⟨position, below, located, rewrites⟩ :=
      rewrites_combinations image.combinations _ number site combination
    refine ⟨(.combination position, below), located, ?_⟩
    exact (rewrites.behind (location.body.clauses location.label ++
      location.interactions.flatMap (Interaction.clauses location.label))).behind
        [.tags location.tags?, .key location.key?]

theorem Item.IsImage.rewrites {item : Item} {owner : Nat} {entity : Entity}
    (image : item.IsImage owner entity) (number : Nat) :
    ∀ site ∈ entity.sites number, ∃ way : Slot × List Nat, site.path = ⟨number, way.1, way.2⟩ ∧
      Rewrites site item.clauses fun passage => (item.rewrite passage way.1 way.2).clauses := by
  intro site visited
  have isItem : entity.isLocation = false := by simp [Entity.isLocation, image.place]
  have acts : entity.interactions = [] := by simp [Entity.interactions, image.place]
  simp only [Entity.sites, isItem, Bool.false_eq_true, if_false, acts, label_eq image.key image.name,
    List.zipIdx_nil, List.flatMap_nil, List.append_nil, List.mem_append] at visited
  rcases visited with body | combination
  · obtain ⟨below, located, rewrites⟩ := rewrites_descriptor _ _ _ image.node site body
    refine ⟨(.body, below), located, ?_⟩
    simp only [Item.clauses_rewrite_body]
    exact (rewrites.append (item.combinations.flatMap (Combination.clauses item.label))).behind
      [.tags item.tags?, .key item.key?]
  · obtain ⟨position, below, located, rewrites⟩ :=
      rewrites_combinations image.combinations _ number site combination
    refine ⟨(.combination position, below), located, ?_⟩
    exact (rewrites.behind (item.body.clauses item.label)).behind [.tags item.tags?, .key item.key?]

/-! ### The locations of the outline

Rewriting keeps all numbers, so the location that is rewritten is the one that has the number. -/

section

variable {passage : Passage} {path : NodePath}

theorem Location.size_eq (location : Location) : location.size = Location.sizeAll location.locations + 1 := by
  cases location
  rfl

/-- The locations inside one are rewritten, whether or not the location itself is. -/
theorem Location.locations_rewriteAt (number : Nat) (location : Location) :
    (location.rewriteAt passage path number).locations =
      Location.rewriteAll passage path (number + 1) location.locations := by
  obtain ⟨_, slot, _⟩ := path
  cases location
  rw [rewriteAt]
  split
  · cases slot <;> rfl
  · rfl

theorem Location.clauses_rewriteAt (number : Nat) (location : Location) :
    (location.rewriteAt passage path number).clauses =
      if path.entity = number then (location.rewrite passage path.slot path.below).clauses
      else location.clauses := by
  obtain ⟨_, slot, _⟩ := path
  cases location
  rw [rewriteAt]
  split
  · cases slot <;> rfl
  · rfl

mutual

theorem Location.size_rewriteAt : ∀ (number : Nat) (location : Location),
    (location.rewriteAt passage path number).size = location.size
  | number, ⟨name, key?, tags?, own, disableExit, descriptors, locations, interactions,
      combinations⟩ => by
      rw [Location.size_eq, Location.locations_rewriteAt, Location.sizeAll_rewriteAll (number + 1) locations,
        Location.size]

theorem Location.sizeAll_rewriteAll : ∀ (number : Nat) (locations : List Location),
    Location.sizeAll (Location.rewriteAll passage path number locations) = Location.sizeAll locations
  | _, [] => rfl
  | number, location :: rest => by
      rw [Location.rewriteAll, Location.sizeAll, Location.sizeAll, Location.size_rewriteAt number location,
        Location.sizeAll_rewriteAll (number + location.size) rest]

end

/-- A location of the outline with another passage, if it has the number. -/
def Spot.rewritten (passage : Passage) (path : NodePath) (spot : Spot) : Spot :=
  if path.entity = spot.number then
    { spot with location := spot.location.rewrite passage path.slot path.below }
  else spot

theorem Spot.clauses_rewritten (spot : Spot) : (spot.rewritten passage path).location.clauses =
    if path.entity = spot.number then (spot.location.rewrite passage path.slot path.below).clauses
    else spot.location.clauses := by
  unfold Spot.rewritten
  split <;> rfl

mutual

theorem Location.clauses_outline_rewriteAt : ∀ (parent? : Option Nat) (number : Nat)
    (location : Location),
    ((location.rewriteAt passage path number).outline parent? number).map (·.location.clauses) =
      ((location.outline parent? number).map (Spot.rewritten passage path)).map (·.location.clauses)
  | parent?, number, ⟨name, key?, tags?, own, disableExit, descriptors, locations, interactions,
      combinations⟩ => by
      rw [Location.outline_eq, Location.outline, List.map_cons, List.map_cons, List.map_cons,
        Location.clauses_rewriteAt, Spot.clauses_rewritten, Location.locations_rewriteAt,
        Location.clauses_outlineAll_rewriteAll (some number) (number + 1) locations]

/-- The outline has the clauses of the location that is rewritten where it had its old ones. -/
theorem Location.clauses_outlineAll_rewriteAll : ∀ (parent? : Option Nat) (number : Nat)
    (locations : List Location),
    (Location.outlineAll parent? number (Location.rewriteAll passage path number locations)).map
        (·.location.clauses) =
      ((Location.outlineAll parent? number locations).map (Spot.rewritten passage path)).map
        (·.location.clauses)
  | _, _, [] => rfl
  | parent?, number, location :: rest => by
      rw [Location.rewriteAll, Location.outlineAll, Location.outlineAll, List.map_append, List.map_append,
        List.map_append, Location.clauses_outline_rewriteAt parent? number location,
        Location.size_rewriteAt,
        Location.clauses_outlineAll_rewriteAll parent? (number + location.size) rest]

end

/-- In the outline of a world, that is the location at the number. -/
theorem World.map_rewritten_outline (world : World) :
    world.outline.map (Spot.rewritten passage path) =
      world.outline.modify path.entity fun spot =>
        { spot with location := spot.location.rewrite passage path.slot path.below } := by
  apply List.ext_getElem?
  intro position
  rw [List.getElem?_map, List.getElem?_modify]
  cases found : world.outline[position]? with
  | none => rfl
  | some spot =>
      have numbered := Location.number_of_getElem? found
      simp only [Option.map_some, Spot.rewritten, numbered]
      split <;> simp [numbered]

end

/-! ### Worlds -/

theorem World.clauses_rewrite (passage : Passage) (path : NodePath) (world : World) :
    (world.rewrite passage path).clauses =
      [.tags world.player.tags?, .tags world.player.inventory?] ++
        ((world.outline.modify path.entity fun spot =>
            { spot with location := spot.location.rewrite passage path.slot path.below }).flatMap
              (·.location.clauses) ++
          (world.rewrite passage path).items.flatMap Item.clauses) := by
  have locations : (world.rewrite passage path).outline.flatMap (·.location.clauses) =
      (world.outline.modify path.entity fun spot =>
        { spot with location := spot.location.rewrite passage path.slot path.below }).flatMap
          (·.location.clauses) := by
    rw [List.flatMap_def, List.flatMap_def, ← World.map_rewritten_outline]
    exact congrArg List.flatten (Location.clauses_outlineAll_rewriteAll none 0 world.locations)
  rw [← locations]
  rfl

/-- What the walk over a world that was built comes to can be rewritten in its definition, and has the
label under which it is read. -/
theorem World.rewrites {model : World} {bus : Bus Handler} {world : Narrative.World}
    (built : model.build bus = .ok world) : ∀ site ∈ world.sites,
      Rewrites site model.clauses fun passage => (model.rewrite passage site.path).clauses := by
  intro site visited
  obtain ⟨locations, items, parts, location_images, item_images⟩ :=
    (World.isFaithful_of_build built).entities
  have item_images : List.Forall₂ (fun item entity => ∃ owner, Item.IsImage owner item entity)
      model.items items := by
    conv => arg 2; rw [← List.zipIdx_map_fst model.outline.length model.items]
    rw [List.forall₂_map_left_iff]
    exact item_images.imp fun entry entity image => ⟨entry.2, image⟩
  have numbered : locations.length = model.outline.length := location_images.length_eq.symm
  rw [World.sites, parts, List.zipIdx_append, List.flatMap_append, List.mem_append, Nat.zero_add,
    numbered] at visited
  simp only [World.clauses_rewrite]
  rcases visited with location | item
  · obtain ⟨index, way, within, located, rewrites⟩ := rewrites_flatMap
      (fun number (way : Slot × List Nat) => ⟨number, way.1, way.2⟩)
      (fun way passage spot => { spot with location := spot.location.rewrite passage way.1 way.2 })
      (fun spot entity number image => image.rewrites number) location_images 0 site location
    rw [Nat.zero_add] at located
    simp only [located, World.rewrite, if_pos within]
    exact (rewrites.append (model.items.flatMap Item.clauses)).behind
      [.tags model.player.tags?, .tags model.player.inventory?]
  · obtain ⟨index, way, _, located, rewrites⟩ := rewrites_flatMap
      (fun number (way : Slot × List Nat) => ⟨number, way.1, way.2⟩)
      (fun way passage => Item.rewrite passage way.1 way.2)
      (fun item entity number image => image.elim fun _ image => image.rewrites number) item_images
      model.outline.length site item
    have beyond : ¬ model.outline.length + index < model.outline.length := by omega
    simp only [located, World.rewrite, if_neg beyond, Nat.add_sub_cancel_left,
      List.modify_eq_self (Nat.le_add_right _ _)]
    exact (rewrites.behind (model.outline.flatMap (·.location.clauses))).behind
      [.tags model.player.tags?, .tags model.player.inventory?]

/-! ### Faults of passages -/

/-- The passage cannot be read: its requirement or, if that can be read, its impacts have a fault. -/
inductive Passage.Refused (passage : Passage) : CompileError → Prop
  | requirement {error : CompileError}
      (fault : passage.requires?.mapM Requirement.parse = .error error) : Refused passage error
  | impacts {requirement? : Option Requirement} {error : CompileError}
      (fine : passage.requires?.mapM Requirement.parse = .ok requirement?)
      (fault : Impact.parseList passage.impact? = .error error) : Refused passage error

theorem Passage.Refused.read {passage : Passage} {error : CompileError} (refused : passage.Refused error)
    (label : String) (taken : List String) :
    (Clause.passage label passage).read taken = .error error := by
  cases refused with
  | requirement fault => rw [Clause.read, fault]; rfl
  | impacts fine fault => rw [Clause.read, fine, fault]; rfl

/-- All clauses of a world that was built can be read. -/
theorem World.readAll_of_build {model : World} {bus : Bus Handler} {world : Narrative.World}
    (built : model.build bus = .ok world) : readAll [] model.clauses = .ok () := by
  cases read : readAll [] model.clauses with
  | ok => rfl
  | error failure =>
      obtain ⟨_, clause, _, error, _, _, _, rfl⟩ := readAll_error_iff.1 read
      rw [World.build_compile_iff.2 read] at built
      cases built

/-- The walk over a world that was built comes to each of its nodes once, with the passage of the node, and
calls the node as its fault is called: if another passage that cannot be read is put there in the
definition, building fails, and the fault is recorded under that label. -/
theorem World.walk_complete {model : World} {bus : Bus Handler} {world : Narrative.World}
    (built : model.build bus = .ok world) :
    (world.sites.map (·.path)).Nodup ∧
      (∀ path node, world.node? path = some node →
        ∃ site ∈ world.sites, site.path = path ∧ site.passage = node.passage) ∧
      ∀ site ∈ world.sites,
        (∃ node, world.node? site.path = some node ∧ node.passage = site.passage) ∧
          Rewrites site model.clauses (fun passage => (model.rewrite passage site.path).clauses) ∧
          ∀ (passage : Passage) error, passage.Refused error →
            ∃ failure, (model.rewrite passage site.path).build bus = .error failure ∧
              failure.records =
                [⟨.error, .builder, "Cannot compile " ++ site.label ++ ": " ++ error.message⟩] := by
  refine ⟨Narrative.World.nodup_paths world, fun path node => Narrative.World.exists_site, ?_⟩
  intro site visited
  have rewrites := World.rewrites built site visited
  refine ⟨Narrative.World.node?_of_site visited, rewrites, ?_⟩
  intro passage error refused
  obtain ⟨before, own, after, parts, _, rewriting⟩ := rewrites
  have whole := World.readAll_of_build built
  rw [parts, readAll_append] at whole
  obtain ⟨_, fine, _⟩ := bind_eq_ok.1 whole
  have fails : (model.rewrite passage site.path).FailsAt (.passage site.label passage) error :=
    ⟨before, after, rewriting passage, fine, refused.read _ _⟩
  exact ⟨_, World.build_compile_iff_failsAt.2 ⟨_, fails, rfl⟩, rfl⟩

/-- In the barn, the walk comes to what is said if the trapdoor is shut and to the opening of it, and the
faults that these may get are recorded under the labels that it gives them. -/
theorem World.walk_complete_barn :
    ∃ (world : Narrative.World) (deep deed : Site), barn.build {} = .ok world ∧
      deep ∈ world.sites ∧ deep.path = ⟨1, .body, [0, 0]⟩ ∧
      deed ∈ world.sites ∧ deed.path = ⟨1, .interaction 0, []⟩ ∧
      (∃ failure, (barn.rewrite { requires? := some "seen +" } deep.path).build {} = .error failure ∧
        failure.records = [⟨.error, .builder, "Cannot compile " ++
          "location 'loft' > descriptor 1 > descriptor 1: " ++
          "Could not parse expression: \"seen +\" (missing operand)"⟩]) ∧
      ∃ failure, (barn.rewrite { requires? := some "seen +" } deed.path).build {} = .error failure ∧
        failure.records = [⟨.error, .builder, "Cannot compile " ++
          "location 'loft' > interaction 'Open': " ++
          "Could not parse expression: \"seen +\" (missing operand)"⟩] := by
  have checked : (barn.build {}).toOption.any (fun world =>
      world.sites.any (fun site => site.path = ⟨1, .body, [0, 0]⟩ &&
        site.label = "location 'loft' > descriptor 1 > descriptor 1") &&
      world.sites.any fun site => site.path = ⟨1, .interaction 0, []⟩ &&
        site.label = "location 'loft' > interaction 'Open'") = true := by
    decide +kernel
  have refused : Passage.Refused { requires? := some "seen +" }
      (.invalidExpression "seen +" .missingOperand) :=
    .requirement (eq_error_of_failureOf? (by decide +kernel))
  obtain ⟨world, built, checked⟩ := (Option.any_eq_true _ _).1 checked
  obtain ⟨below, part⟩ := (Bool.and_eq_true _ _).mp checked
  obtain ⟨deep, visited, found⟩ := List.any_eq_true.1 below
  obtain ⟨deed, alsoVisited, alsoFound⟩ := List.any_eq_true.1 part
  simp only [Bool.and_eq_true, decide_eq_true_eq] at found alsoFound
  have built := eq_ok_of_toOption built
  obtain ⟨_, _, walk⟩ := World.walk_complete built
  have message : (CompileError.invalidExpression "seen +" .missingOperand).message =
      "Could not parse expression: \"seen +\" (missing operand)" := by
    decide +kernel
  have deepFails := (walk deep visited).2.2 _ _ refused
  have deedFails := (walk deed alsoVisited).2.2 _ _ refused
  rw [found.2, message] at deepFails
  rw [alsoFound.2, message] at deedFails
  exact ⟨world, deep, deed, built, visited, found.1, alsoVisited, alsoFound.1, deepFails, deedFails⟩

end Narrative.Model
