/-
Module: Narrative.Proofs.World.Site
Purpose: The walk over the sites of a world misses no node: whatever is at a path is visited. And it comes
  to nothing else, and to no node twice.
Main exports: Node.descriptorSites_eq, Node.exists_site, World.exists_site, World.node?_of_site,
  World.nodup_paths
-/
import Mathlib.Data.List.Nodup
import Narrative.World.Site

namespace Narrative

/-- The sites of descriptors are those of each of them, by its position. -/
theorem Node.descriptorSites_eq (label : String) (path : NodePath) (position : Nat)
    (nodes : List Node) :
    descriptorSites label path position nodes =
      (nodes.zipIdx position).flatMap fun (node, position) =>
        node.sites (Label.descriptor label position) .descriptor
          { path with below := path.below ++ [position] } := by
  induction nodes generalizing position with
  | nil => rfl
  | cons node rest ih => simp [descriptorSites, ih]

theorem Node.exists_site {below : List Nat} {node inner : Node}
    (found : node.descriptor? below = some inner) (label : String) (kind : SiteKind)
    (path : NodePath) :
    ∃ site ∈ node.sites label kind path,
      site.path = { path with below := path.below ++ below } ∧ site.passage = inner.passage := by
  induction below generalizing node label kind path with
  | nil =>
      cases found
      cases inner with
      | mk passage descriptors => exact ⟨_, List.mem_cons_self, by simp, rfl⟩
  | cons position below ih =>
      simp only [descriptor?] at found
      split at found
      next child placed =>
        have ⟨site, visited, located, told⟩ := ih found (Label.descriptor label position)
          .descriptor { path with below := path.below ++ [position] }
        refine ⟨site, ?_, by simpa using located, told⟩
        cases node with
        | mk passage descriptors =>
            rw [sites, descriptorSites_eq]
            apply List.mem_cons_of_mem
            apply List.mem_flatMap_of_mem (a := (child, position))
            · exact List.mem_zipIdx_iff_getElem?.2 placed
            · exact visited
      next => cases found

/-- The nodes of the parts of an entity are visited, with all that is below them. -/
theorem Entity.exists_site {entity : Entity} {slot : Slot} {below : List Nat} {node inner : Node}
    (part : entity.node? slot = some node) (found : node.descriptor? below = some inner)
    (number : Nat) :
    ∃ site ∈ entity.sites number,
      site.path = ⟨number, slot, below⟩ ∧ site.passage = inner.passage := by
  cases slot with
  | body =>
      cases part
      obtain ⟨site, visited, located⟩ := Node.exists_site found _ _ ⟨number, .body, []⟩
      exact ⟨site, List.mem_append_left _ (List.mem_append_left _ visited), located⟩
  | interaction position =>
      obtain ⟨interaction, placed, rfl⟩ := Option.map_eq_some_iff.1 part
      obtain ⟨site, visited, located⟩ :=
        Node.exists_site found _ _ ⟨number, .interaction position, []⟩
      refine ⟨site, List.mem_append_left _ (List.mem_append_right _ ?_), located⟩
      apply List.mem_flatMap_of_mem (a := (interaction, position))
      · exact List.mem_zipIdx_iff_getElem?.2 placed
      · exact visited
  | combination position =>
      obtain ⟨combination, placed, rfl⟩ := Option.map_eq_some_iff.1 part
      obtain ⟨site, visited, located⟩ :=
        Node.exists_site found _ _ ⟨number, .combination position, []⟩
      refine ⟨site, List.mem_append_right _ ?_, located⟩
      apply List.mem_flatMap_of_mem (a := (combination, position))
      · exact List.mem_zipIdx_iff_getElem?.2 placed
      · exact visited

/-- Whatever is at a path in a world is visited. -/
theorem World.exists_site {world : World} {path : NodePath} {node : Node}
    (found : world.node? path = some node) :
    ∃ site ∈ world.sites, site.path = path ∧ site.passage = node.passage := by
  obtain ⟨entity, known, part⟩ := Option.bind_eq_some_iff.1 found
  obtain ⟨part, placed, below⟩ := Option.bind_eq_some_iff.1 part
  obtain ⟨site, visited, located⟩ := Entity.exists_site placed below path.entity
  refine ⟨site, ?_, located⟩
  apply List.mem_flatMap_of_mem (a := (entity, path.entity))
  · exact List.mem_zipIdx_iff_getElem?.2 known
  · exact visited

/-! ### Each node once -/

mutual

/-- The site of a node or of a descriptor below it is where there is a node with its passage. -/
theorem Node.node_of_site : ∀ (label : String) (kind : SiteKind) (path : NodePath) (node : Node),
    ∀ site ∈ node.sites label kind path, ∃ below inner,
      site.path = { path with below := path.below ++ below } ∧
        node.descriptor? below = some inner ∧ inner.passage = site.passage
  | label, kind, path, ⟨passage, descriptors⟩, site, visited => by
      rw [sites] at visited
      rcases List.mem_cons.1 visited with rfl | visited
      · exact ⟨[], ⟨passage, descriptors⟩, by simp, rfl, rfl⟩
      · obtain ⟨index, below, child, inner, located, placed, found, told⟩ :=
          Node.node_of_descriptorSite label path 0 descriptors site visited
        refine ⟨index :: below, inner, by simpa using located, ?_, told⟩
        rw [descriptor?]
        dsimp only
        rw [placed]
        exact found

theorem Node.node_of_descriptorSite : ∀ (label : String) (path : NodePath) (position : Nat)
    (nodes : List Node), ∀ site ∈ descriptorSites label path position nodes,
      ∃ index below child inner,
        site.path = { path with below := path.below ++ (position + index) :: below } ∧
          nodes[index]? = some child ∧ child.descriptor? below = some inner ∧
          inner.passage = site.passage
  | _, _, _, [], _, visited => by cases visited
  | label, path, position, node :: rest, site, visited => by
      rw [descriptorSites] at visited
      rcases List.mem_append.1 visited with here | later
      · obtain ⟨below, inner, located, found, told⟩ := Node.node_of_site _ _ _ node site here
        exact ⟨0, below, node, inner, by simpa using located, rfl, found, told⟩
      · obtain ⟨index, below, child, inner, located, placed, found, told⟩ :=
          Node.node_of_descriptorSite label path (position + 1) rest site later
        refine ⟨index + 1, below, child, inner, ?_, placed, found, told⟩
        rw [located, Nat.add_right_comm, Nat.add_assoc]

end

mutual

theorem Node.nodup_paths : ∀ (label : String) (kind : SiteKind) (path : NodePath) (node : Node),
    ((node.sites label kind path).map (·.path)).Nodup
  | label, kind, path, ⟨passage, descriptors⟩ => by
      rw [sites, List.map_cons, List.nodup_cons]
      refine ⟨?_, Node.nodup_descriptorPaths label path 0 descriptors⟩
      intro again
      obtain ⟨site, visited, same⟩ := List.mem_map.1 again
      obtain ⟨index, below, _, _, located, _⟩ := node_of_descriptorSite label path 0 descriptors site visited
      have lengths := congrArg (·.below.length) (located.symm.trans same)
      simp at lengths

/-- The sites of descriptors have different paths. -/
theorem Node.nodup_descriptorPaths : ∀ (label : String) (path : NodePath) (position : Nat)
    (nodes : List Node), ((descriptorSites label path position nodes).map (·.path)).Nodup
  | _, _, _, [] => List.nodup_nil
  | label, path, position, node :: rest => by
      rw [descriptorSites, List.map_append, List.nodup_append]
      refine ⟨Node.nodup_paths _ _ _ node, Node.nodup_descriptorPaths label path (position + 1) rest, ?_⟩
      intro first here second later same
      obtain ⟨site, visited, rfl⟩ := List.mem_map.1 here
      obtain ⟨other, alsoVisited, rfl⟩ := List.mem_map.1 later
      obtain ⟨below, _, located, _⟩ := node_of_site _ _ _ node site visited
      obtain ⟨index, beneath, _, _, alsoLocated, _⟩ :=
        node_of_descriptorSite label path (position + 1) rest other alsoVisited
      rw [located, alsoLocated] at same
      have positions : position = position + 1 + index ∧ below = beneath := by simpa using same
      omega

end

/-- Lists of entries at different positions have nothing in common if each value shows the position that it
is at. -/
theorem nodup_flatMap_zipIdx {α β : Type} {each : α × Nat → List β} (place : β → Nat)
    (distinct : ∀ entry position, (each (entry, position)).Nodup)
    (placed : ∀ entry position, ∀ value ∈ each (entry, position), place value = position)
    (entries : List α) (first : Nat) : ((entries.zipIdx first).flatMap each).Nodup := by
  have positions : (entries.zipIdx first).Pairwise fun one other => one.2 ≠ other.2 := by
    rw [← List.pairwise_map, List.zipIdx_map_snd]
    exact List.nodup_range'
  refine List.nodup_flatMap.2 ⟨fun entry _ => distinct entry.1 entry.2, positions.imp ?_⟩
  intro one other differ value here there
  exact differ ((placed _ _ value here).symm.trans (placed _ _ value there))

/-- The sites of parts of an entity that are alike, each in its slot. -/
def partSites {α : Type} (node : α → Node) (label : α → String) (kind : α → SiteKind)
    (slot : Nat → Slot) (number : Nat) (parts : List α) : List Site :=
  parts.zipIdx.flatMap fun (part, position) =>
    (node part).sites (label part) (kind part) ⟨number, slot position, []⟩

section

variable {α : Type} {node : α → Node} {label : α → String} {kind : α → SiteKind} {slot : Nat → Slot}

theorem node_of_partSite {parts : List α} {number : Nat} {site : Site}
    (visited : site ∈ partSites node label kind slot number parts) :
    ∃ position below part inner, site.path = ⟨number, slot position, below⟩ ∧
      parts[position]? = some part ∧ (node part).descriptor? below = some inner ∧
      inner.passage = site.passage := by
  obtain ⟨⟨part, position⟩, placed, visited⟩ := List.mem_flatMap.1 visited
  obtain ⟨below, inner, located, found, told⟩ := Node.node_of_site _ _ _ _ site visited
  exact ⟨position, below, part, inner, located, List.mem_zipIdx_iff_getElem?.1 placed, found, told⟩

theorem nodup_partPaths {position : Slot → Nat} (inverse : ∀ index, position (slot index) = index)
    (number : Nat) (parts : List α) :
    ((partSites node label kind slot number parts).map (·.path)).Nodup := by
  rw [partSites, List.map_flatMap]
  refine nodup_flatMap_zipIdx (fun path => position path.slot)
    (fun part index => Node.nodup_paths _ _ _ _) ?_ parts 0
  intro part index path member
  obtain ⟨site, visited, rfl⟩ := List.mem_map.1 member
  obtain ⟨below, _, located, _⟩ := Node.node_of_site _ _ _ _ site visited
  rw [located]
  exact inverse index

end

/-- The position of an interaction or a combination. -/
def Slot.position : Slot → Nat
  | .body => 0
  | .interaction position | .combination position => position

namespace Entity

/-- The sites of an entity are those of its own node and of its parts, under a label of its own. -/
theorem sites_eq (entity : Entity) (number : Nat) : ∃ label kind,
    entity.sites number =
      entity.node.sites label kind ⟨number, .body, []⟩ ++
        partSites (·.node) (Label.interaction label ·.name) (fun _ => .interaction) .interaction number
          entity.interactions ++
        partSites (·.node) (Label.combination label ·.target) (.combination ·.target) .combination number
          entity.combinations :=
  ⟨_, _, rfl⟩

/-- A site of an entity is where the entity has a node with its passage. -/
theorem node_of_site {entity : Entity} {number : Nat} {site : Site}
    (visited : site ∈ entity.sites number) :
    ∃ slot below node inner, site.path = ⟨number, slot, below⟩ ∧ entity.node? slot = some node ∧
      node.descriptor? below = some inner ∧ inner.passage = site.passage := by
  obtain ⟨label, kind, parts⟩ := sites_eq entity number
  rw [parts, List.mem_append, List.mem_append] at visited
  rcases visited with (body | interaction) | combination
  · obtain ⟨below, inner, located, found, told⟩ := Node.node_of_site _ _ _ _ site body
    exact ⟨.body, below, entity.node, inner, located, rfl, found, told⟩
  · obtain ⟨position, below, part, inner, located, placed, found, told⟩ := node_of_partSite interaction
    exact ⟨.interaction position, below, part.node, inner, located, by simp [node?, placed], found, told⟩
  · obtain ⟨position, below, part, inner, located, placed, found, told⟩ := node_of_partSite combination
    exact ⟨.combination position, below, part.node, inner, located, by simp [node?, placed], found, told⟩

theorem nodup_paths (entity : Entity) (number : Nat) :
    ((entity.sites number).map (·.path)).Nodup := by
  obtain ⟨label, kind, parts⟩ := sites_eq entity number
  rw [parts, List.map_append, List.map_append, List.nodup_append, List.nodup_append]
  have inverse : ∀ index, (Slot.interaction index).position = index := fun _ => rfl
  have alsoInverse : ∀ index, (Slot.combination index).position = index := fun _ => rfl
  refine ⟨⟨Node.nodup_paths _ _ _ _, nodup_partPaths inverse _ _, ?_⟩,
    nodup_partPaths alsoInverse _ _, ?_⟩
  · intro path body other interaction same
    obtain ⟨site, visited, rfl⟩ := List.mem_map.1 body
    obtain ⟨_, alsoVisited, rfl⟩ := List.mem_map.1 interaction
    obtain ⟨_, _, located, _⟩ := Node.node_of_site _ _ _ _ site visited
    obtain ⟨_, _, _, _, alsoLocated, _⟩ := node_of_partSite alsoVisited
    rw [located, alsoLocated] at same
    cases same
  · intro path first other combination same
    obtain ⟨_, alsoVisited, rfl⟩ := List.mem_map.1 combination
    obtain ⟨_, _, _, _, alsoLocated, _⟩ := node_of_partSite alsoVisited
    rcases List.mem_append.1 first with body | interaction
    · obtain ⟨site, visited, rfl⟩ := List.mem_map.1 body
      obtain ⟨_, _, located, _⟩ := Node.node_of_site _ _ _ _ site visited
      rw [located, alsoLocated] at same
      cases same
    · obtain ⟨_, visited, rfl⟩ := List.mem_map.1 interaction
      obtain ⟨_, _, _, _, located, _⟩ := node_of_partSite visited
      rw [located, alsoLocated] at same
      cases same

end Entity

namespace World

/-- A site is where there is a node with its passage. -/
theorem node?_of_site {world : World} {site : Site} (visited : site ∈ world.sites) :
    ∃ node, world.node? site.path = some node ∧ node.passage = site.passage := by
  obtain ⟨⟨entity, number⟩, placed, visited⟩ := List.mem_flatMap.1 visited
  obtain ⟨slot, below, node, inner, located, part, found, told⟩ := Entity.node_of_site visited
  have known : world.entity? number = some entity := List.mem_zipIdx_iff_getElem?.1 placed
  refine ⟨inner, ?_, told⟩
  rw [located]
  simp [node?, known, part, found]

/-- No two sites are at one path. -/
theorem nodup_paths (world : World) : (world.sites.map (·.path)).Nodup := by
  rw [sites, List.map_flatMap]
  refine nodup_flatMap_zipIdx (·.entity) (fun entity number => Entity.nodup_paths entity number) ?_
    world.entities 0
  intro entity number path member
  obtain ⟨site, visited, rfl⟩ := List.mem_map.1 member
  obtain ⟨_, _, _, _, located, _⟩ := Entity.node_of_site visited
  rw [located]

end World

end Narrative
