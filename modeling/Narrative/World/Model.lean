/-
Module: Narrative.World.Model
Purpose: The definition of a world as its author writes it. Expressions are kept as text.
Main exports: Correlation, Model.Passage, Model.Descriptor, Model.Interaction, Model.Combination,
  Model.Item, Model.Location, Model.Player, Model.World
-/
import Narrative.Tag
import Narrative.Tally

namespace Narrative

/-- How a descriptor depends on the one before it: not at all, or it is told only if that one is
not. -/
inductive Correlation where
  | none
  | otherwise
deriving Repr, DecidableEq

/-- The word for a correlation. -/
def Correlation.word : Correlation → String
  | .none => "none"
  | .otherwise => "else"

namespace Model

/-- What every passage of a story has: its text, the requirement and the impacts, how often it may
be told and how often it counts as told already. -/
structure Passage where
  description? : Option String := none
  requires? : Option String := none
  impact? : Option String := none
  limit : Tally := .number 0
  evaluations : Tally := .number 0
deriving Repr

/-- A part of a description. -/
structure Descriptor where
  passage : Passage
  correlation : Correlation
  descriptors : List Descriptor
deriving Repr

/-- Something that the player can do at a location. -/
structure Interaction where
  name : String
  passage : Passage
  descriptors : List Descriptor
deriving Repr

/-- What happens when an entity is used with the entity that has the key `item`. -/
structure Combination where
  item : String
  passage : Passage
  descriptors : List Descriptor
deriving Repr

/-- Something that the player can carry. -/
structure Item where
  name : String
  key? : Option String
  tags? : Option TagText
  passage : Passage
  descriptors : List Descriptor
  combinations : List Combination
deriving Repr

/-- A place, with the places inside it. -/
structure Location where
  name : String
  key? : Option String
  tags? : Option TagText
  passage : Passage
  disableExit : Bool
  descriptors : List Descriptor
  locations : List Location
  interactions : List Interaction
  combinations : List Combination
deriving Repr

/-- What the player begins with. -/
structure Player where
  tags? : Option TagText := none
  inventory? : Option TagText := none
deriving Repr

/-- A world: the key of the location where it starts, its title, and all that is in it. -/
structure World where
  start : String
  title : String
  player : Player
  locations : List Location
  items : List Item
deriving Repr

end Model

end Narrative
