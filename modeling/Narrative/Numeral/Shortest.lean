/-
Module: Narrative.Numeral.Shortest
Purpose: The shortest decimal that reads back as a given binary number, and its usual spelling.
Main exports: Binary64.shortest, Binary64.text
-/
import Narrative.Numeral.Binary64

namespace Narrative.Numeral.Binary64

/-- The numbers next to a quotient on the grid of the multiples of ten to the `exponent`: the one
below and the one above, and whether the upper one is nearer. In the middle, the even one is. -/
def neighbours (num den : Nat) (exponent : Int) : Nat × Nat × Bool :=
  let (num, den) :=
    if exponent ≥ 0 then (num, den * tenTo exponent.toNat) else (num * tenTo (-exponent).toNat, den)
  let low := num / den
  let twice := 2 * (num % den)
  (low, low + 1, twice > den || (twice == den && low % 2 == 1))

/-- The largest power of ten that is at most a quotient of positive numbers, up to one. -/
def decimalMagnitude (num den : Nat) : Int :=
  ((Nat.toDigits 10 num).length : Int) - (Nat.toDigits 10 den).length

/-- Tries the grids from the coarsest to the finest, and takes the first on which a neighbour reads
back as the number; of two such neighbours, the nearer. -/
def searchGrids (x : Binary64) (num den : Nat) : (grids : Nat) → (exponent : Int) → Nat × Int
  | 0, exponent => (0, exponent)
  | grids + 1, exponent =>
    let (low, high, upper) := neighbours num den exponent
    let fits (n : Nat) : Bool := n ≠ 0 && ofDecimal false n exponent == x
    let (first, second) := if upper then (high, low) else (low, high)
    if fits first then (first, exponent)
    else if fits second then (second, exponent)
    else searchGrids x num den grids (exponent - 1)

/-- The shortest digits and the exponent of a positive finite number. -/
def shortest (significand : Nat) (exponent : Int) : Nat × Int :=
  let (num, den) :=
    if exponent ≥ 0 then (significand * twoTo exponent.toNat, 1)
    else (significand, twoTo (-exponent).toNat)
  searchGrids (.finite false significand exponent) num den 20 (decimalMagnitude num den + 1)

/-- Digits without the zeros at their end, and the exponent that makes up for them. -/
def withoutZeros (digits : List Char) (exponent : Int) : List Char × Int :=
  let kept := (digits.reverse.dropWhile (· == '0')).reverse
  (kept, exponent + (digits.length - kept.length : Nat))

/-- The spelling of digits times a power of ten: positional from the fourth place after the point to
the sixteenth before it, and else with an exponent of at least two digits. -/
def spell (digits : List Char) (exponent : Int) : List Char :=
  let point : Int := digits.length + exponent
  if -4 < point && point ≤ 16 then
    if point ≤ 0 then "0.".toList ++ List.replicate (-point).toNat '0' ++ digits
    else if exponent ≥ 0 then digits ++ List.replicate exponent.toNat '0' ++ ".0".toList
    else digits.take point.toNat ++ '.' :: digits.drop point.toNat
  else
    let power := point - 1
    let size := Nat.toDigits 10 power.natAbs
    digits.take 1 ++ (if digits.length > 1 then '.' :: digits.drop 1 else []) ++
      ['e', if power < 0 then '-' else '+'] ++ List.replicate (2 - size.length) '0' ++ size

/-- The usual spelling of a number. -/
def text : Binary64 → String
  | .nan => "nan"
  | .infinite negative => if negative then "-inf" else "inf"
  | .finite negative significand exponent =>
    let sign := if negative then ['-'] else []
    if significand = 0 then String.ofList (sign ++ "0.0".toList)
    else
      let (n, power) := shortest significand exponent
      let (digits, power) := withoutZeros (Nat.toDigits 10 n) power
      String.ofList (sign ++ spell digits power)

end Narrative.Numeral.Binary64
