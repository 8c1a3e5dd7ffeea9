/-
Module: Narrative.Numeral.Power
Purpose: Powers of the two bases that numerals have.
Main exports: twoTo, tenTo
-/

namespace Narrative.Numeral

/-- A power of two. -/
def twoTo (exponent : Nat) : Nat := Nat.pow 2 exponent

/-- A power of ten. -/
def tenTo (exponent : Nat) : Nat := Nat.pow 10 exponent

end Narrative.Numeral
