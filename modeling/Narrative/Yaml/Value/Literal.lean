/-
Module: Narrative.Yaml.Value.Literal
Purpose: How values are written in messages.
Main exports: Document.literal?, Document.inWords?, listText?, mappingText?
-/
import Narrative.Yaml.Value.Basic

namespace Narrative.Yaml

/-- Written items in brackets, unless one of them cannot be written. -/
def listText? (items : List (Option String)) : Option String :=
  (items.mapM id).map fun items => "[" ++ ", ".intercalate items ++ "]"

/-- Written entries in braces, unless one of them cannot be written. -/
def mappingText? (entries : List (Option String × Option String)) : Option String :=
  let written (entry : Option String × Option String) : Option String := do
    return (← entry.1) ++ ": " ++ (← entry.2)
  (entries.mapM written).map fun entries => "\x7b" ++ ", ".intercalate entries ++ "\x7d"

/-- The members of a set in the order in which they are written: whole numbers go from the least to
the greatest. -/
def writtenOrder (members : List Scalar) : List Scalar :=
  match members.mapM fun | .int n => some n | _ => none with
  | some numbers => (numbers.mergeSort fun m n => m ≤ n).map .int
  | none => members

/-- A set as it is written, unless one of its members cannot be written. -/
def setText? (members : List Scalar) : Option String :=
  if members.isEmpty then some "set()"
  else
    ((writtenOrder members).mapM Scalar.literal?).map fun members =>
      "\x7b" ++ ", ".intercalate members ++ "\x7d"

namespace Document

/-- A value as it is written inside the collections with the numbers `around`, unless a number in it
has too many digits. A collection inside itself is only hinted at. The number bounds the depth that
is looked at. -/
def literalIn? (document : Document) : (depth : Nat) → (around : List Nat) → Value → Option String
  | _, _, .scalar value => value.literal?
  | 0, _, .collection _ => none
  | depth + 1, around, .collection number =>
    let inner := document.literalIn? depth (number :: around)
    let seen := around.contains number
    match document.collection number with
    | .list items => if seen then some "[...]" else listText? (items.map inner)
    | .pairs items =>
      if seen then some "[...]"
      else
        let pair (item : Value × Value) : Option String := do
          return "(" ++ (← inner item.1) ++ ", " ++ (← inner item.2) ++ ")"
        listText? (items.map pair)
    | .mapping entries =>
      if seen then some "\x7b...\x7d"
      else mappingText? (entries.map fun (key, value) => (key.literal?, inner value))
    | .set members => setText? members

/-- A value as it is written inside a message for its type, unless a number in it has too many
digits. -/
def literal? (document : Document) (value : Value) : Option String :=
  document.literalIn? (document.depth + 1) [] value

/-- A value as it is written in a message, unless a number in it has too many digits. -/
def inWords? (document : Document) : Value → Option String
  | .scalar value => value.inWords?
  | value => document.literal? value

end Document

end Narrative.Yaml
