/-
Module: Narrative.Numeral.Binary64
Purpose: Binary floating-point numbers of 64 bits, rounded exactly from decimals.
Main exports: Binary64, Binary64.ofDecimal, Binary64.add, Binary64.mul, Binary64.bits
-/
import Narrative.Numeral.Power

namespace Narrative.Numeral

/-- A binary floating-point number of 64 bits. A finite one is its significand times two to its
exponent; the significand is below `2 ^ 53`, the exponent at least `-1074`, and the significand at
least `2 ^ 52` unless the exponent is the least one. -/
inductive Binary64 where
  | finite (negative : Bool) (significand : Nat) (exponent : Int)
  | infinite (negative : Bool)
  | nan
deriving Repr, DecidableEq, Inhabited

namespace Binary64

/-- The exponent of the largest power of two that is at most the quotient of two positive
numbers. -/
def floorLog (num den : Nat) : Int :=
  let guess : Int := (num.log2 : Int) - den.log2
  let fits := if guess ≥ 0 then den * twoTo guess.toNat ≤ num else den ≤ num * twoTo (-guess).toNat
  if fits then guess else guess - 1

/-- The quotient rounded to the nearest whole number, a half to the even one. -/
def roundHalfEven (num den : Nat) : Nat :=
  let q := num / den
  let twice := 2 * (num % den)
  if twice > den || (twice == den && q % 2 == 1) then q + 1 else q

/-- The number nearest to a quotient of two positive numbers; of two equally near ones, that with
the even significand. -/
def ofQuotient (negative : Bool) (num den : Nat) : Binary64 :=
  let exponent : Int := max (floorLog num den - 52) (-1074)
  let significand :=
    if exponent ≥ 0 then roundHalfEven num (den * twoTo exponent.toNat)
    else roundHalfEven (num * twoTo (-exponent).toNat) den
  let (significand, exponent) :=
    if significand = twoTo 53 then (twoTo 52, exponent + 1) else (significand, exponent)
  if exponent > 971 then .infinite negative else .finite negative significand exponent

/-- Plus or minus zero. -/
def zero (negative : Bool) : Binary64 := .finite negative 0 (-1074)

/-- The number nearest to a decimal: `n` times ten to the `exponent`. Powers of ten beyond all
numbers are not computed. -/
def ofDecimal (negative : Bool) (n : Nat) (exponent : Int) : Binary64 :=
  let magnitude : Int := (Nat.toDigits 10 n).length + exponent
  if n = 0 || magnitude < -400 then zero negative
  else if magnitude > 400 then .infinite negative
  else if exponent ≥ 0 then ofQuotient negative (n * tenTo exponent.toNat) 1
  else ofQuotient negative n (tenTo (-exponent).toNat)

/-- The number nearest to a natural number times a power of two, with a sign. -/
def ofDyadic (negative : Bool) (n : Nat) (exponent : Int) : Binary64 :=
  if n = 0 then zero negative
  else if exponent ≥ 0 then ofQuotient negative (n * twoTo exponent.toNat) 1
  else ofQuotient negative n (twoTo (-exponent).toNat)

/-- The number nearest to a natural number, unless that is beyond all finite numbers. -/
def ofNat? (n : Nat) : Option Binary64 :=
  match ofDyadic false n 0 with
  | .infinite _ => none
  | x => some x

/-- A finite number as a whole number times a power of two. -/
def dyadic? : Binary64 → Option (Int × Int)
  | .finite negative significand exponent =>
    some (if negative then -(significand : Int) else significand, exponent)
  | _ => none

/-- The product, rounded. -/
def mul : Binary64 → Binary64 → Binary64
  | .nan, _ => .nan
  | _, .nan => .nan
  | .infinite a, .infinite b => .infinite (a != b)
  | .infinite a, .finite b n _ => if n = 0 then .nan else .infinite (a != b)
  | .finite a m _, .infinite b => if m = 0 then .nan else .infinite (a != b)
  | .finite a m d, .finite b n e => ofDyadic (a != b) (m * n) (d + e)

/-- The sum, rounded. It is minus zero only if both numbers are. -/
def add : Binary64 → Binary64 → Binary64
  | .nan, _ => .nan
  | _, .nan => .nan
  | .infinite a, .infinite b => if a = b then .infinite a else .nan
  | .infinite a, .finite .. => .infinite a
  | .finite .., .infinite b => .infinite b
  | .finite a m d, .finite b n e =>
    let least := min d e
    let signed (negative : Bool) (n : Nat) (exponent : Int) : Int :=
      let size : Int := (n * twoTo (exponent - least).toNat : Nat)
      if negative then -size else size
    let sum := signed a m d + signed b n e
    if sum = 0 then zero (a && b) else ofDyadic (sum < 0) sum.natAbs least

/-- The number with the opposite sign. -/
def negate : Binary64 → Binary64
  | .finite negative significand exponent => .finite (!negative) significand exponent
  | .infinite negative => .infinite (!negative)
  | .nan => .nan

/-- The whole number that a number is equal to. -/
def toWhole? (x : Binary64) : Option Int :=
  match x.dyadic? with
  | some (n, exponent) =>
    if exponent ≥ 0 then some (n * twoTo exponent.toNat)
    else
      let unit : Int := twoTo (-exponent).toNat
      if n % unit = 0 then some (n / unit) else none
  | none => none

/-- The sign, exponent and significand packed into 64 bits. -/
def bits : Binary64 → Nat
  | .nan => 0x7ff8000000000000
  | .infinite negative => (if negative then twoTo 63 else 0) + 0x7ff0000000000000
  | .finite negative significand exponent =>
    (if negative then twoTo 63 else 0) +
      (if significand < twoTo 52 then significand
       else (exponent + 1075).toNat * twoTo 52 + (significand - twoTo 52))

/-- Whether the number is above zero. -/
def isPositive : Binary64 → Bool
  | .nan => false
  | .infinite negative => !negative
  | .finite negative significand _ => !negative && significand != 0

end Binary64

end Narrative.Numeral
