/-
Module: Narrative.Numeral.Whole
Purpose: Reading and writing whole numbers.
Main exports: maxDigits, readWhole, readWhole?, writeWhole?
-/
import Narrative.Numeral.Digit
import Narrative.Numeral.Power

namespace Narrative.Numeral

/-- A numeral of more digits than this is neither read nor written. -/
def maxDigits : Nat := 4300

/-- Why a text is not read as a whole number: it is no numeral, or it has too many digits. -/
inductive WholeFault where
  | noNumeral
  | tooLong (digits : Nat)
deriving Repr, DecidableEq

/-- Reads a whole number: blanks around it, at most one sign, and digits with single underscores
between them. The digits that a text begins with may be too many, whatever follows them. -/
def readWhole (cs : List Char) : Except WholeFault Int :=
  let (negative, body) := takeSign (trimNumeral cs)
  let run := (body.takeWhile fun c => (digitValue? c).isSome).length
  match digits? body with
  | none => .error (if run > maxDigits then .tooLong run else .noNumeral)
  | some ds =>
    if ds.length > maxDigits then .error (.tooLong ds.length)
    else
      let n : Int := ofDigits ds
      .ok (if negative then -n else n)

/-- The whole number that a text is read as, if it is one. -/
def readWhole? (cs : List Char) : Option Int := (readWhole cs).toOption

/-- The complaint about a text with too many digits. -/
def tooLongToRead (digits : Nat) : String :=
  "Exceeds the limit (" ++ toString maxDigits ++ " digits) for integer string conversion: " ++
    "value has " ++ toString digits ++
    " digits; use sys.set_int_max_str_digits() to increase the limit"

/-- The complaint about a number with too many digits. -/
def tooLongToWrite : String :=
  "Exceeds the limit (" ++ toString maxDigits ++ " digits) for integer string conversion; " ++
    "use sys.set_int_max_str_digits() to increase the limit"

/-- A whole number in digits, unless it has too many of them. -/
def writeWhole? (n : Int) : Option String :=
  if n.natAbs < tenTo maxDigits then some (toString n) else none

end Narrative.Numeral
