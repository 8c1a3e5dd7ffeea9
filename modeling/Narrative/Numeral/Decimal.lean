/-
Module: Narrative.Numeral.Decimal
Purpose: Reading decimals with a point and an exponent.
Main exports: readDecimal?
-/
import Narrative.Numeral.Binary64
import Narrative.Numeral.Digit

namespace Narrative.Numeral

/-- The values of the digits of a part that may be empty. -/
def optionalDigits? : List Char → Option (List Nat)
  | [] => some []
  | cs => digits? cs

/-- An exponent: one sign at most, and digits. -/
def exponent? (cs : List Char) : Option Int := do
  let (negative, body) := takeSign cs
  let n : Int := ofDigits (← digits? body)
  return if negative then -n else n

/-- A decimal without its sign: digits around an optional point, at least one of them, and an
optional exponent after an `e`. -/
def unsignedDecimal? (negative : Bool) (cs : List Char) : Option Binary64 := do
  let isMark (c : Char) := c == 'e' || c == 'E'
  let mantissa := cs.takeWhile (!isMark ·)
  let exponent ← match cs.dropWhile (!isMark ·) with
    | [] => some 0
    | _ :: rest => exponent? rest
  let whole ← optionalDigits? (mantissa.takeWhile (· != '.'))
  let fraction ← optionalDigits? ((mantissa.dropWhile (· != '.')).drop 1)
  if whole.isEmpty && fraction.isEmpty then none
  else
    return .ofDecimal negative (ofDigits (whole ++ fraction)) (exponent - fraction.length)

/-- Reads a decimal: blanks around it, at most one sign, and the word for infinity or for no number,
in any case, or digits. -/
def readDecimal? (cs : List Char) : Option Binary64 :=
  let (negative, body) := takeSign (trimNumeral cs)
  match String.ofList (body.map Char.toLower) with
  | "inf" | "infinity" => some (.infinite negative)
  | "nan" => some .nan
  | _ => unsignedDecimal? negative body

end Narrative.Numeral
