/-
Module: Narrative.Yaml.Scalar.Basic
Purpose: The values of scalars.
Main exports: Scalar, Scalar.same, Scalar.inWords?, Scalar.literal?
-/
import Narrative.Numeral.Shortest
import Narrative.Numeral.Whole
import Narrative.Text.Quoted
import Narrative.Yaml.Scalar.Calendar

namespace Narrative.Yaml

open Numeral (Binary64)

/-- The value of a scalar. What is no number is known by the number of its node, since it is not equal
to any other; but the word for it always means the same one. -/
inductive Scalar where
  | null
  | bool (value : Bool)
  | int (value : Int)
  | float (value : Binary64)
  | nan (node? : Option Nat)
  | text (value : String)
  | bytes (value : List Nat)
  | day (value : Day)
  | moment (value : Moment)
deriving Repr, DecidableEq

namespace Scalar

/-- The whole number that a scalar counts as; truth values count as zero and one. -/
def whole? : Scalar → Option Int
  | .bool value => some (if value then 1 else 0)
  | .int value => some value
  | .float value => value.toWhole?
  | _ => none

/-- Whether two scalars are the same key of a mapping: numbers are compared by their value, and
moments by when they are. -/
def same (a b : Scalar) : Bool :=
  match a, b with
  | .moment m, .moment n => m.same n
  | _, _ =>
    match a.whole?, b.whole? with
    | some m, some n => m == n
    | _, _ => a == b

/-- The name of the type of a scalar. -/
def typeName : Scalar → String
  | .null => "NoneType"
  | .bool _ => "bool"
  | .int _ => "int"
  | .float _ | .nan _ => "float"
  | .text _ => "str"
  | .bytes _ => "bytes"
  | .day _ => "date"
  | .moment _ => "datetime"

/-- Bytes between quotes. -/
def bytesText (bytes : List Nat) : String :=
  let mark := Text.quoteMark (bytes.map Char.ofNat)
  let shown (byte : Nat) : List Char :=
    if byte < 0x80 then Text.escape mark (Char.ofNat byte)
    else '\\' :: 'x' :: Text.hexDigits 2 byte
  String.ofList ('b' :: mark :: bytes.flatMap shown ++ [mark])

/-- A scalar as it is written in a message, unless it has too many digits. -/
def inWords? : Scalar → Option String
  | .null => some "None"
  | .bool value => some (if value then "True" else "False")
  | .int value => Numeral.writeWhole? value
  | .float value => some value.text
  | .nan _ => some Binary64.nan.text
  | .text value => some value
  | .bytes value => some (bytesText value)
  | .day value => some value.text
  | .moment value => some value.text

/-- A scalar as it is written inside a collection in a message, unless it has too many digits. -/
def literal? : Scalar → Option String
  | .text value => some (Text.quote value)
  | .day value => some value.literal
  | .moment value => some value.literal
  | scalar => scalar.inWords?

end Scalar

end Narrative.Yaml
