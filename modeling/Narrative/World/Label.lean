/-
Module: Narrative.World.Label
Purpose: What the parts of a world are called in messages for its author.
Main exports: Label.location, Label.item, Label.descriptor, Label.interaction, Label.combination
-/

namespace Narrative.Label

/-- A text in quotes. -/
private def quoted (text : String) : String := "'" ++ text ++ "'"

/-- A part of something. -/
private def part (label what : String) : String := label ++ " > " ++ what

/-- A location with its key or name. -/
def location (label : String) : String := "location " ++ quoted label

/-- An item with its key or name. -/
def item (label : String) : String := "item " ++ quoted label

/-- A descriptor of something; descriptors are counted from one. -/
def descriptor (label : String) (position : Nat) : String :=
  part label ("descriptor " ++ toString (position + 1))

/-- An interaction at a location. -/
def interaction (label name : String) : String := part label ("interaction " ++ quoted name)

/-- A combination of an entity. -/
def combination (label target : String) : String :=
  part label ("combination with " ++ quoted target)

end Narrative.Label
