/-
Module: Narrative.World.Load
Purpose: The definition of a world from a document.
Main exports: LoadError, LoadError.message, LoadError.isReported, Model.World.ofDocument,
  Model.World.parse, Model.World.ofFile
-/
import Narrative.Path
import Narrative.Text.Utf8
import Narrative.World.Fields
import Narrative.World.Literal
import Narrative.Yaml.Document

namespace Narrative

namespace Model

/-! ### Parts of a definition -/

/-- The fields of every passage. -/
def Passage.ofFields (fields : Fields) : Loading Passage := do
  let description? ← fields.text? "description"
  let requires? ← fields.text? "requires"
  let impact? ← fields.text? "impact"
  let limit ← fields.tally "limit"
  let evaluations ← fields.tally "evaluations"
  return { description?, requires?, impact?, limit, evaluations }

/-- The names of the fields of every passage. -/
def passageNames : List String :=
  ["description", "requires", "impact", "limit", "evaluations", "descriptors"]

/-- A descriptor; the number bounds the depth of what is in it. -/
def Descriptor.ofFields : (depth : Nat) → Fields → Loading Descriptor
  | 0, _ => throw .endless
  | depth + 1, fields => do
    fields.checkKeys ("correlation" :: passageNames)
    let passage ← Passage.ofFields fields
    let correlation ← fields.correlation "correlation"
    let descriptors ← fields.listOf (Descriptor.ofFields depth) (·.literal?) "descriptors"
    return { passage, correlation, descriptors }

/-- An interaction. -/
def Interaction.ofFields (depth : Nat) (fields : Fields) : Loading Interaction := do
  fields.checkKeys ("name" :: passageNames)
  let name ← fields.requiredText "name"
  let passage ← Passage.ofFields fields
  let descriptors ← fields.listOf (Descriptor.ofFields depth) (·.literal?) "descriptors"
  return { name, passage, descriptors }

/-- A combination. -/
def Combination.ofFields (depth : Nat) (fields : Fields) : Loading Combination := do
  fields.checkKeys ("item" :: passageNames)
  let item ← fields.requiredText "item"
  let passage ← Passage.ofFields fields
  let descriptors ← fields.listOf (Descriptor.ofFields depth) (·.literal?) "descriptors"
  return { item, passage, descriptors }

/-- An item. -/
def Item.ofFields (depth : Nat) (fields : Fields) : Loading Item := do
  fields.checkKeys (["name", "key", "tags", "combinations"] ++ passageNames)
  let name ← fields.requiredText "name"
  let key? ← fields.text? "key"
  let tags? ← fields.tags? "tags"
  let passage ← Passage.ofFields fields
  let descriptors ← fields.listOf (Descriptor.ofFields depth) (·.literal?) "descriptors"
  let combinations ← fields.listOf (Combination.ofFields depth) (·.literal?) "combinations"
  return { name, key?, tags?, passage, descriptors, combinations }

/-- A location; the number bounds the depth of what is in it. -/
def Location.ofFields : (depth : Nat) → Fields → Loading Location
  | 0, _ => throw .endless
  | depth + 1, fields => do
    fields.checkKeys (["name", "key", "tags", "disable_exit", "locations", "interactions",
      "combinations"] ++ passageNames)
    let name ← fields.requiredText "name"
    let key? ← fields.text? "key"
    let tags? ← fields.tags? "tags"
    let passage ← Passage.ofFields fields
    let disableExit ← fields.truth "disable_exit"
    let descriptors ← fields.listOf (Descriptor.ofFields depth) (·.literal?) "descriptors"
    let locations ← fields.listOf (Location.ofFields depth) (·.literal?) "locations"
    let interactions ← fields.listOf (Interaction.ofFields depth) (·.literal?) "interactions"
    let combinations ← fields.listOf (Combination.ofFields depth) (·.literal?) "combinations"
    return { name, key?, tags?, passage, disableExit, descriptors, locations, interactions,
             combinations }

/-- The player. -/
def Player.ofFields (fields : Fields) : Loading Player := do
  fields.checkKeys ["tags", "inventory"]
  let tags? ← fields.tags? "tags"
  let inventory? ← fields.tags? "inventory"
  return { tags?, inventory? }

/-- The player among the fields of a world. -/
def Fields.player (fields : Fields) (name : String) : Loading Player := do
  match fields.value? name with
  | none => return {}
  | some value =>
    match (← read).mapping? value with
    | some inner => (Player.ofFields inner).under name
    | none => .wrongType name "PlayerModel" value

/-- The title of a world that has none. -/
def usualTitle : String := "Taleloom"

/-- A world; the number bounds the depth of what is in it. -/
def World.ofFields (depth : Nat) (fields : Fields) : Loading World := do
  fields.checkKeys ["start", "title", "player", "locations", "items"]
  let start ← fields.requiredText "start"
  let title ← fields.textOr usualTitle "title"
  let player ← fields.player "player"
  let locations ← fields.listOf (Location.ofFields depth) (·.literal?) "locations"
  let items ← fields.listOf (Item.ofFields depth) (·.literal?) "items"
  return { start, title, player, locations, items }

end Model

/-! ### Whole worlds -/

/-- Why the definition of a world cannot be loaded. -/
inductive LoadError where
  | nullCharacter
  | unreadable (path : Path) (fault : FileFault)
  | notText (fault : Text.Utf8Fault)
  | document (fault : Yaml.Fault) (source : List Char)
  | notAMapping
  | schema (fault : SchemaFault)

/-- The error in words. -/
def LoadError.message : LoadError → String
  | .nullCharacter => "embedded null byte"
  | .unreadable path fault =>
    "Cannot read world file '" ++ path.text ++ "': " ++ fault.message path.text
  | .notText fault => fault.message
  | .document fault source => "Invalid world definition: " ++ fault.message source
  | .notAMapping => "Invalid world definition: expected a mapping at the top level"
  | .schema fault => "Invalid world definition: " ++ fault.message

/-- Whether the author can be told of the error. A path that can be none and a file that is no text at
all are not foreseen, and neither are some scalars that have a shape but no value. -/
def LoadError.isReported : LoadError → Bool
  | .unreadable .. | .notAMapping => true
  | .nullCharacter | .notText _ => false
  | .document (.scalar (.invalid _)) _ => true
  | .document (.scalar _) _ | .document .endless _ => false
  | .document .. => true
  | .schema fault => fault.isReported

namespace Model.World

/-- The definition of a world from a document. -/
def ofDocument (document : Yaml.Document) : Except LoadError World :=
  match document.mapping? document.root with
  | some fields => (ofFields document.depth fields document).mapError .schema
  | none => .error .notAMapping

/-- The definition of a world from the text of a document. -/
def parse (text : List Char) : Except LoadError World := do
  ofDocument (← (Yaml.Document.load text).mapError fun fault => .document fault text)

/-- The definition of a world from the bytes of a file, or why they cannot be read. -/
def ofFile (path : Path) (file : Except FileFault (List Nat)) : Except LoadError World := do
  if path.text.toList.contains '\x00' then throw .nullCharacter
  let bytes ← file.mapError (.unreadable path)
  let text ← (Text.decodeUtf8 bytes).mapError .notText
  parse (Text.unifyLineEnds text)

end Model.World

end Narrative
