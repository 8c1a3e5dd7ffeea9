/-
Module: Narrative.World.Literal
Purpose: How the parts of a definition are written in messages.
Main exports: Model.Descriptor.literal?, Model.Interaction.literal?, Model.Combination.literal?,
  Model.Item.literal?, Model.Location.literal?
-/
import Narrative.World.Model
import Narrative.Yaml.Value.Literal

namespace Narrative

/-- A correlation as it is written in a message. -/
def Correlation.literal : Correlation → String
  | .none => "<Correlation.NONE: 'none'>"
  | .otherwise => "<Correlation.ELSE: 'else'>"

namespace Model

open Yaml (listText?)

/-- Written fields after the name of a type, unless one of them cannot be written. -/
def recordText? (name : String) (fields : List (String × Option String)) : Option String :=
  let written (field : String × Option String) : Option String := do
    return field.1 ++ "=" ++ (← field.2)
  (fields.mapM written).map fun fields => name ++ "(" ++ ", ".intercalate fields ++ ")"

/-- A text that may be missing as it is written in a message. -/
def textLiteral : Option String → String
  | none => "None"
  | some text => Text.quote text

/-- Tags that may be missing as they are written in a message. -/
def tagsLiteral : Option TagText → String
  | none => "None"
  | some (.line text) => Text.quote text
  | some (.entries texts) => "[" ++ ", ".intercalate (texts.map Text.quote) ++ "]"

/-- The written fields of a passage. -/
def Passage.fieldTexts (passage : Passage) : List (String × Option String) :=
  [("description", some (textLiteral passage.description?)),
    ("requires", some (textLiteral passage.requires?)),
    ("impact", some (textLiteral passage.impact?)),
    ("limit", passage.limit.written?), ("evaluations", passage.evaluations.written?)]

mutual

/-- A descriptor as it is written in a message, unless a number in it has too many digits. -/
def Descriptor.literal? : Descriptor → Option String
  | ⟨passage, correlation, descriptors⟩ =>
    recordText? "DescriptorModel" (passage.fieldTexts ++
      [("correlation", some correlation.literal),
        ("descriptors", listText? (descriptorLiterals descriptors))])

/-- Descriptors as they are written in a message. -/
def descriptorLiterals : List Descriptor → List (Option String)
  | [] => []
  | descriptor :: rest => descriptor.literal? :: descriptorLiterals rest

end

/-- The written field of the descriptors of a part. -/
def descriptorsField (descriptors : List Descriptor) : String × Option String :=
  ("descriptors", listText? (descriptorLiterals descriptors))

/-- An interaction as it is written in a message, unless a number in it has too many digits. -/
def Interaction.literal? (interaction : Interaction) : Option String :=
  recordText? "InteractionModel" (("name", some (Text.quote interaction.name)) ::
    interaction.passage.fieldTexts ++ [descriptorsField interaction.descriptors])

/-- A combination as it is written in a message, unless a number in it has too many digits. -/
def Combination.literal? (combination : Combination) : Option String :=
  recordText? "CombinationModel" (("item", some (Text.quote combination.item)) ::
    combination.passage.fieldTexts ++ [descriptorsField combination.descriptors])

/-- An item as it is written in a message, unless a number in it has too many digits. -/
def Item.literal? (item : Item) : Option String :=
  recordText? "ItemModel" ([("name", some (Text.quote item.name)),
    ("key", some (textLiteral item.key?)), ("tags", some (tagsLiteral item.tags?))] ++
    item.passage.fieldTexts ++ [descriptorsField item.descriptors,
      ("combinations", listText? (item.combinations.map (·.literal?)))])

mutual

/-- A location as it is written in a message, unless a number in it has too many digits. -/
def Location.literal? : Location → Option String
  | ⟨name, key?, tags?, passage, disableExit, descriptors, locations, interactions,
      combinations⟩ =>
    recordText? "LocationModel" ([("name", some (Text.quote name)),
      ("key", some (textLiteral key?)), ("tags", some (tagsLiteral tags?))] ++
      passage.fieldTexts ++ [("disable_exit", some (if disableExit then "True" else "False")),
        descriptorsField descriptors,
        ("locations", listText? (locationLiterals locations)),
        ("interactions", listText? (interactions.map (·.literal?))),
        ("combinations", listText? (combinations.map (·.literal?)))])

/-- Locations as they are written in a message. -/
def locationLiterals : List Location → List (Option String)
  | [] => []
  | location :: rest => location.literal? :: locationLiterals rest

end

end Model

end Narrative
