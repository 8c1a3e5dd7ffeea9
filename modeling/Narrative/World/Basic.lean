/-
Module: Narrative.World.Basic
Purpose: The state of a story: its entities, what the player is and holds, and where the story is.
Main exports: World, Handler, NodePath, Holder, World.resolve?, World.node?, World.holderOf,
  World.hasFact, World.findCombination
-/
import Narrative.Bus
import Narrative.Entity

namespace Narrative

/-- Who listens to a story: the journal, the engine that watches the focus, and reactions that apply
impacts of an entity whenever an event occurs. -/
inductive Handler where
  | record
  | watchFocus
  | react (name : String) (source : Nat) (impacts : List Impact)
deriving Repr, DecidableEq

/-- A world in play. Entities go by their place in the list. The journal holds the events that were
recorded, the log what went wrong without stopping the story. -/
structure World where
  entities : List Entity
  player : TagSet
  inventory : TagSet
  focus : Nat
  bus : Bus Handler := {}
  journal : List Event := []
  focusMoved : Bool := false
  log : List LogRecord := []

/-- Where a node is: its entity, the part of it, and the way down through the descriptors. -/
structure NodePath where
  entity : Nat
  slot : Slot := .body
  below : List Nat := []
deriving Repr, DecidableEq

/-- Whether the path is that of an entity itself. -/
def NodePath.isEntity (path : NodePath) : Bool := path.slot = .body && path.below.isEmpty

/-- What holds tags, or the keys of items. -/
inductive Holder where
  | player
  | inventory
  | entity (number : Nat)
deriving Repr, DecidableEq

namespace World

/-! ### Entities -/

/-- The entity with a number. -/
def entity? (world : World) (number : Nat) : Option Entity := world.entities[number]?

/-- The number of the entity with a key. -/
def resolve? (world : World) (key : String) : Option Nat :=
  world.entities.findIdx? (·.lookupKey? = some key)

/-- The number of the location with a key. -/
def resolveLocation? (world : World) (key : String) : Option Nat :=
  (world.resolve? key).filter fun number => (world.entity? number).any (·.isLocation)

/-- The number of the item with a key. -/
def resolveItem? (world : World) (key : String) : Option Nat :=
  (world.resolve? key).filter fun number => (world.entity? number).any (! ·.isLocation)

/-- The number of the entity that a key has to name. -/
def require (world : World) (key : String) : Except EvaluationError Nat :=
  match world.resolve? key with
  | some number => .ok number
  | none => .error (.unknownReference key .element)

/-- The label of an entity. -/
def labelOf (world : World) (number : Nat) : String :=
  ((world.entity? number).map (·.label)).getD ""

/-- The name of an entity. -/
def nameOf (world : World) (number : Nat) : String :=
  ((world.entity? number).map (·.name)).getD ""

/-- The place of a location. -/
def place? (world : World) (number : Nat) : Option Place := (world.entity? number).bind (·.place?)

/-- The location around a location. -/
def parent? (world : World) (number : Nat) : Option Nat := (world.place? number).bind (·.parent?)

/-- The locations inside a location. -/
def inside (world : World) (number : Nat) : List Nat :=
  ((world.place? number).map (·.inside)).getD []

/-- Adds an entity. Its key has to be new. -/
def register (world : World) (entity : Entity) : Except CompileError World :=
  match entity.lookupKey? with
  | some key =>
    if (world.resolve? key).isSome then .error (.duplicateKey key)
    else .ok { world with entities := world.entities ++ [entity] }
  | none => .ok { world with entities := world.entities ++ [entity] }

/-! ### Nodes -/

/-- The node at a path. -/
def node? (world : World) (path : NodePath) : Option Node := do
  let entity ← world.entity? path.entity
  let node ← entity.node? path.slot
  node.descriptor? path.below

/-- The world with the node at a path changed. -/
def modifyNode (change : Node → Node) (path : NodePath) (world : World) : World :=
  { world with
    entities := world.entities.modify path.entity fun entity =>
      entity.modifyNode (Node.modify change path.below) path.slot }

/-- The entity whose tags a node means when it names no other. -/
def sourceOf (world : World) (path : NodePath) : Nat :=
  if path.isEntity then path.entity
  else ((world.node? path).map (·.passage.owner)).getD path.entity

/-! ### Facts -/

/-- Who holds what a reference of an entity names. -/
def holderOf (world : World) (source : Nat) : Reference → Except EvaluationError Holder
  | .own _ => .ok (.entity source)
  | .player .. => .ok .player
  | .inventory .. => .ok .inventory
  | .keyed element _ => .entity <$> world.require element

/-- The tags of a holder, or the keys that it holds. -/
def tagsOf (world : World) : Holder → TagSet
  | .player => world.player
  | .inventory => world.inventory
  | .entity number => ((world.entity? number).map (·.tags)).getD .empty

/-- The world with the tags of a holder replaced. -/
def setTags (world : World) (tags : TagSet) : Holder → World
  | .player => { world with player := tags }
  | .inventory => { world with inventory := tags }
  | .entity number =>
    { world with entities := world.entities.modify number fun entity => { entity with tags } }

/-- Whether the fact that a reference of an entity names holds. -/
def hasFact (world : World) (source : Nat) (reference : Reference) :
    Except EvaluationError Bool := do
  let holder ← world.holderOf source reference
  return decide (reference.property ∈ world.tagsOf holder)

/-! ### Availability -/

/-- Whether the node at a path may be told. A location that lies in no other always may. -/
def isAvailable (world : World) (path : NodePath) : Except EvaluationError Bool :=
  if path.isEntity && (world.entity? path.entity).any (·.isRoot) then .ok true
  else
    match world.node? path with
    | none => .ok false
    | some node => node.passage.isAvailable (world.hasFact (world.sourceOf path))

/-- Those of a list whose nodes may be told, in order. -/
def availableAmong {α : Type} (world : World) (path : α → NodePath) :
    List α → Except EvaluationError (List α)
  | [] => .ok []
  | one :: others => do
    let available ← world.isAvailable (path one)
    let rest ← world.availableAmong path others
    return if available then one :: rest else rest

/-- The positions of the interactions at a location that may be told. -/
def availableInteractions (world : World) (location : Nat) : Except EvaluationError (List Nat) :=
  let interactions := ((world.entity? location).map (·.interactions)).getD []
  world.availableAmong (⟨location, .interaction ·, []⟩) (List.range interactions.length)

/-- The locations inside a location that may be told. -/
def availableInside (world : World) (location : Nat) : Except EvaluationError (List Nat) :=
  world.availableAmong (⟨·, .body, []⟩) (world.inside location)

/-- The items that the player holds and that may be told, in the order of their keys. -/
def availableItems (world : World) : Except EvaluationError (List Nat) :=
  world.availableAmong (⟨·, .body, []⟩) (world.inventory.toList.filterMap world.resolveItem?)

/-! ### Combinations -/

/-- Where the combinations are that an entity declares with a key. -/
def combinationsWith (world : World) (owner : Nat) (key : String) : List NodePath :=
  let combinations := ((world.entity? owner).map (·.combinations)).getD []
  (combinations.zipIdx.filter (·.1.target = key)).map fun (_, position) =>
    ⟨owner, .combination position, []⟩

/-- The first combination that one entity declares with another and that a test lets pass. -/
def findDeclared (world : World) (available : NodePath → Except EvaluationError Bool)
    (owner other : Nat) : Except EvaluationError (Option NodePath) :=
  match (world.entity? other).bind (·.lookupKey?) with
  | some key => (world.combinationsWith owner key).findM? available
  | none => .ok none

/-- The combination of two entities that a test lets pass: one that the first declares or else one that
the second declares. -/
def findCombination (world : World) (available : NodePath → Except EvaluationError Bool)
    (first second : Nat) : Except EvaluationError (Option NodePath) := do
  match ← world.findDeclared available first second with
  | some path => return some path
  | none => world.findDeclared available second first

/-- The combination that one entity declares with another and that may be told. -/
def declaredCombination (world : World) (owner other : Nat) :
    Except EvaluationError (Option NodePath) :=
  world.findDeclared world.isAvailable owner other

/-- The combination of two entities that may be told. -/
def combinationOf (world : World) (first second : Nat) :
    Except EvaluationError (Option NodePath) :=
  world.findCombination world.isAvailable first second

end World

end Narrative
