/-
Module: Narrative.Text.Span
Purpose: Character classes given as spans of code points.
Main exports: Span, Span.covers, Span.anyCovers
-/

namespace Narrative.Text

/-- The code points from the first to the second, both included. -/
abbrev Span := Nat × Nat

/-- Whether the character lies in the span. -/
def Span.covers (span : Span) (c : Char) : Bool := span.1 ≤ c.toNat && c.toNat ≤ span.2

/-- Whether the character lies in one of the spans. -/
def Span.anyCovers (spans : Array Span) (c : Char) : Bool := spans.any (Span.covers · c)

end Narrative.Text
