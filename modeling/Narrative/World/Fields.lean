/-
Module: Narrative.World.Fields
Purpose: The fields of the mappings that define a world: every field has to be known and of its type.
Main exports: SchemaFault, SchemaFault.message, Model.Loading, Model.Fields
-/
import Narrative.Text.Case
import Narrative.World.Model
import Narrative.Yaml.Value.Literal

namespace Narrative

open Yaml (Scalar Value Collection Document)

/-! ### Faults -/

/-- How a value does not fit the definition of a world: keys that mean nothing, a field of another
type, a field that takes several types and has none of them, a field that is missing, a value that a
field does not take, a key where a pair should be, a fault about a number that is too long to be
written, or a part that is within itself. A field is named by the path to it. -/
inductive SchemaFault where
  | unexpected (keys : List String)
  | wrongType (path : List String) (expected found typeName : String)
  | noMatch (path : List String) (typeName : String)
  | missing (path : List String)
  | badValue (message : String)
  | notAPair (position : Nat)
  | unwritable
  | endless
deriving Repr, DecidableEq

namespace SchemaFault

/-- The same fault seen from the mapping that holds the field. -/
def under (field : String) : SchemaFault → SchemaFault
  | .wrongType path expected found typeName => .wrongType (field :: path) expected found typeName
  | .noMatch path typeName => .noMatch (field :: path) typeName
  | .missing path => .missing (field :: path)
  | fault => fault

/-- The path to the field, if the fault is about one. -/
def path? : SchemaFault → Option String
  | .wrongType path _ _ _ | .noMatch path _ | .missing path => some (".".intercalate path)
  | _ => none

/-- Whether the author can be told of the fault. Keys that are no pairs, numbers that cannot be
written and parts without end are not foreseen. -/
def isReported : SchemaFault → Bool
  | .notAPair _ | .unwritable | .endless => false
  | _ => true

/-- The fault in words. -/
def message : SchemaFault → String
  | .unexpected keys =>
    "can not match " ++ ", ".intercalate (keys.map fun key => "\"" ++ key ++ "\"") ++
      " to any data class field"
  | .wrongType path expected found typeName =>
    "wrong value type for field \"" ++ ".".intercalate path ++ "\" - should be \"" ++ expected ++
      "\" instead of value \"" ++ found ++ "\" of type \"" ++ typeName ++ "\""
  | .noMatch path typeName =>
    "can not match type \"" ++ typeName ++ "\" to any type of \"" ++ ".".intercalate path ++
      "\" union: typing.Union[str, list[str], NoneType]"
  | .missing path => "missing value for field \"" ++ ".".intercalate path ++ "\""
  | .badValue message => message
  | .notAPair position => "no pair at position " ++ toString position
  | .unwritable => Numeral.tooLongToWrite
  | .endless => "a part is within itself"

end SchemaFault

/-! ### Fields -/

namespace Model

/-- Reading a part of a definition from a document. -/
abbrev Loading (α : Type) := ReaderT Document (Except SchemaFault) α

namespace Loading

/-- Reading of a part that a field holds; its faults name the field. -/
def under {α : Type} (field : String) (loading : Loading α) : Loading α :=
  fun document => (loading document).mapError (·.under field)

/-- Refuses a value for its type. -/
def wrongType {α : Type} (field expected : String) (found : Value) : Loading α := fun document =>
  match document.inWords? found with
  | some words => .error (.wrongType [field] expected words (document.typeName found))
  | none => .error .unwritable

/-- Refuses a written list or mapping for its type. -/
def wrongText {α : Type} (field expected typeName : String) (found? : Option String) : Loading α :=
  match found? with
  | some found => throw (.wrongType [field] expected found typeName)
  | none => throw .unwritable

end Loading

/-- The fields of a mapping. -/
abbrev Fields := List (Scalar × Value)

namespace Fields

/-- The value of a field. -/
def value? (fields : Fields) (name : String) : Option Value := fields.lookup (.text name)

/-- Refuses keys that are no names of fields. -/
def checkKeys (fields : Fields) (names : List String) : Loading Unit :=
  let isKnown : Scalar → Bool
    | .text name => names.contains name
    | _ => false
  let unknown := (fields.map (·.1)).filter (!isKnown ·)
  if unknown.isEmpty then return
  else
    match unknown.mapM (·.inWords?) with
    | some keys => throw (.unexpected (keys.mergeSort fun s t => !Text.precedes t s))
    | none => throw .unwritable

/-- A text that has to be there. -/
def requiredText (fields : Fields) (name : String) : Loading String :=
  match fields.value? name with
  | some (.scalar (.text text)) => return text
  | some other => .wrongType name "str" other
  | none => throw (.missing [name])

/-- A text, or the usual one. -/
def textOr (fields : Fields) (usual name : String) : Loading String :=
  match fields.value? name with
  | none => return usual
  | some (.scalar (.text text)) => return text
  | some other => .wrongType name "str" other

/-- A text, or nothing. -/
def text? (fields : Fields) (name : String) : Loading (Option String) :=
  match fields.value? name with
  | none | some (.scalar .null) => return none
  | some (.scalar (.text text)) => return some text
  | some other => .wrongType name "typing.Optional[str]" other

/-- A number of evaluations, usually zero. -/
def tally (fields : Fields) (name : String) : Loading Tally :=
  match fields.value? name with
  | none => return .number 0
  | some (.scalar (.int value)) => return .number value
  | some (.scalar (.bool value)) => return .truth value
  | some other => .wrongType name "int" other

/-- A truth value, usually false. -/
def truth (fields : Fields) (name : String) : Loading Bool :=
  match fields.value? name with
  | none => return false
  | some (.scalar (.bool value)) => return value
  | some other => .wrongType name "bool" other

/-- Tags: one text, a list of texts, or nothing. -/
def tags? (fields : Fields) (name : String) : Loading (Option TagText) := do
  let document ← read
  let textOf? : Value → Option String
    | .scalar (.text text) => some text
    | _ => none
  let refuse (value : Value) : Loading (Option TagText) :=
    throw (.noMatch [name] (document.typeName value))
  match fields.value? name with
  | none | some (.scalar .null) => return none
  | some (.scalar (.text text)) => return some (.line text)
  | some (.scalar other) => refuse (.scalar other)
  | some (.collection number) =>
    match document.collection number with
    | .pairs [] => return some (.entries [])
    | .list items =>
      match items.mapM textOf? with
      | some texts => return some (.entries texts)
      | none => refuse (.collection number)
    | _ => refuse (.collection number)

/-- A correlation, in any case. -/
def correlation (fields : Fields) (name : String) : Loading Correlation := do
  match fields.value? name with
  | none => return .none
  | some value =>
    let word := match value with
      | .scalar (.text text) => Text.lower text
      | _ => ""
    if word = "none" then return .none
    else if word = "else" then return .otherwise
    else
      match (← read).literal? value with
      | some shown => throw (.badValue (shown ++ " is not a valid Correlation"))
      | none => throw (.badValue Numeral.tooLongToWrite)

/-- The entries of a mapping whose keys are taken for pairs of characters. -/
def pairsOfKeys : (position : Nat) → List Scalar → Loading Fields
  | _, [] => return []
  | position, key :: keys =>
    let pair (length : Nat) (made : Option (Scalar × Value)) : Loading Fields :=
      match made with
      | some entry => do return entry :: (← pairsOfKeys (position + 1) keys)
      | none =>
        throw (.badValue ("dictionary update sequence element #" ++ toString position ++
          " has length " ++ toString length ++ "; 2 is required"))
    match key with
    | .text text =>
      pair text.length <| match text.toList with
        | [a, b] => some (.text a.toString, .scalar (.text b.toString))
        | _ => none
    | .bytes bytes =>
      pair bytes.length <| match bytes with
        | [a, b] => some (.int a, .scalar (.int b))
        | _ => none
    | _ => throw (.notAPair position)

/-- The parts that the mappings in a list define. All mappings are read before an item that is none
is refused; then the list is shown with the parts that were read. -/
def partsOf {α : Type} (read : Fields → Loading α) (literal? : α → Option String) (name : String)
    (items : List Value) : Loading (List α) := do
  let document ← ReaderT.read
  let readings : List (α ⊕ Value) ← items.mapM fun item =>
    match document.mapping? item with
    | some inner => .inl <$> (read inner).under name
    | none => return .inr item
  match readings.mapM (·.getLeft?) with
  | some parts => return parts
  | none =>
    .wrongText name "list" "list" (Yaml.listText? (readings.map (Sum.elim literal? document.literal?)))

/-- A list of mappings, usually empty. -/
def listOf {α : Type} (fields : Fields) (read : Fields → Loading α) (literal? : α → Option String)
    (name : String) : Loading (List α) := do
  let document ← ReaderT.read
  match fields.value? name with
  | none => return []
  | some (.scalar value) => .wrongType name "list" (.scalar value)
  | some (.collection number) =>
    match document.collection number with
    | .list items => partsOf read literal? name items
    | .pairs [] => return []
    | .mapping entries =>
      let pairs ← pairsOfKeys 0 (entries.map (·.1))
      let entries := pairs.foldl (fun made (key, value) => Yaml.putEntry key value made) []
      .wrongText name "list" "dict" (Yaml.mappingText? (entries.map fun (key, value) =>
        (key.literal?, document.literal? value)))
    | _ => .wrongType name "list" (.collection number)

end Fields

end Model

end Narrative
