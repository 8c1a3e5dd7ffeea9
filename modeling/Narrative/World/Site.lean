/-
Module: Narrative.World.Site
Purpose: A walk over all nodes of a world in play, with what each is called.
Main exports: SiteKind, Site, World.sites
-/
import Narrative.World.Basic
import Narrative.World.Label

namespace Narrative

/-- What a node is of: an entity itself, an interaction, a combination, or a descriptor below. -/
inductive SiteKind where
  | location
  | item
  | interaction
  | combination (target : String)
  | descriptor
deriving Repr, DecidableEq

/-- A node of a world: what it is called and of, where it is, and its passage. -/
structure Site where
  label : String
  kind : SiteKind
  path : NodePath
  passage : Passage
deriving Repr

mutual

/-- The sites of a node and of the descriptors below it, from the top down. -/
def Node.sites (label : String) (kind : SiteKind) (path : NodePath) : Node → List Site
  | ⟨passage, descriptors⟩ =>
    ⟨label, kind, path, passage⟩ :: Node.descriptorSites label path 0 descriptors

/-- The sites of the descriptors of a node, from a position on. -/
def Node.descriptorSites (label : String) (path : NodePath) :
    (position : Nat) → List Node → List Site
  | _, [] => []
  | position, node :: rest =>
    Node.sites (Label.descriptor label position) .descriptor
        { path with below := path.below ++ [position] } node ++
      Node.descriptorSites label path (position + 1) rest

end

/-- The sites of an entity: itself, its interactions and its combinations. -/
def Entity.sites (entity : Entity) (number : Nat) : List Site :=
  let (kind, label) := if entity.isLocation then (SiteKind.location, Label.location entity.label)
    else (.item, Label.item entity.label)
  entity.node.sites label kind ⟨number, .body, []⟩ ++
    entity.interactions.zipIdx.flatMap (fun (interaction, position) =>
      interaction.node.sites (Label.interaction label interaction.name) .interaction
        ⟨number, .interaction position, []⟩) ++
    entity.combinations.zipIdx.flatMap (fun (combination, position) =>
      combination.node.sites (Label.combination label combination.target)
        (.combination combination.target) ⟨number, .combination position, []⟩)

/-- The sites of a world, entity after entity. -/
def World.sites (world : World) : List Site :=
  world.entities.zipIdx.flatMap fun (entity, number) => entity.sites number

end Narrative
