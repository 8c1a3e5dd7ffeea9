/-
Module: Narrative.Entity
Purpose: The entities of a story: its locations and items, with what can be done at them and with
  them.
Main exports: Interaction, Combination, Place, Entity, Slot, Entity.label, Entity.node?,
  Entity.modifyNode
-/
import Narrative.Passage

namespace Narrative

/-- Something that the player can do at a location. -/
structure Interaction where
  name : String
  node : Node
deriving Repr

/-- What happens when the entity is used with the entity that has the key `target`. -/
structure Combination where
  target : String
  node : Node
deriving Repr

/-- What makes an entity a location: where it lies, the numbers of the locations inside it, what can
be done there, and whether the way back is hidden. -/
structure Place where
  parent? : Option Nat := none
  inside : List Nat := []
  interactions : List Interaction := []
  disableExit : Bool := false
deriving Repr

/-- A location or, without a place, an item. -/
structure Entity where
  name : String
  key? : Option String
  tags : TagSet
  node : Node
  combinations : List Combination := []
  place? : Option Place

/-- The parts of an entity that are told on their own. -/
inductive Slot where
  | body
  | interaction (position : Nat)
  | combination (position : Nat)
deriving Repr, DecidableEq

namespace Entity

/-- Whether the entity is a location. -/
def isLocation (entity : Entity) : Bool := entity.place?.isSome

/-- Whether the entity is a location that lies in no other. -/
def isRoot (entity : Entity) : Bool :=
  match entity.place? with
  | some place => place.parent?.isNone
  | none => false

/-- A key that can be looked up: an empty one is none. -/
def lookupKey? (entity : Entity) : Option String := entity.key?.filter (· ≠ "")

/-- The key or, without one, the name. -/
def label (entity : Entity) : String := entity.lookupKey?.getD entity.name

/-- What can be done at the entity; at an item that is nothing. -/
def interactions (entity : Entity) : List Interaction :=
  match entity.place? with
  | some place => place.interactions
  | none => []

/-- The node of a part. -/
def node? (entity : Entity) : Slot → Option Node
  | .body => some entity.node
  | .interaction position => entity.interactions[position]?.map (·.node)
  | .combination position => entity.combinations[position]?.map (·.node)

/-- The entity with the node of a part changed. -/
def modifyNode (change : Node → Node) (entity : Entity) : Slot → Entity
  | .body => { entity with node := change entity.node }
  | .interaction position =>
    { entity with
      place? := entity.place?.map fun place =>
        { place with
          interactions := place.interactions.modify position fun interaction =>
            { interaction with node := change interaction.node } } }
  | .combination position =>
    { entity with
      combinations := entity.combinations.modify position fun combination =>
        { combination with node := change combination.node } }

end Entity

end Narrative
