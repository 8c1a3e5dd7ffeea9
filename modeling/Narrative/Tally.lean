/-
Module: Narrative.Tally
Purpose: How often a passage has been told, or may be told.
Main exports: Tally, Tally.value, Tally.next, Tally.text, Tally.written?
-/
import Narrative.Numeral.Whole

namespace Narrative

/-- A number of evaluations. An author may also write a truth value, which counts as zero or one and
keeps its spelling until it is counted up. -/
inductive Tally where
  | number (value : Int)
  | truth (value : Bool)
deriving Repr, DecidableEq

namespace Tally

/-- The number. -/
def value : Tally → Int
  | .number value => value
  | .truth value => if value then 1 else 0

/-- One more. -/
def next (tally : Tally) : Tally := .number (tally.value + 1)

@[simp] theorem value_next (tally : Tally) : tally.next.value = tally.value + 1 := rfl

/-- The number as it is written. -/
def text : Tally → String
  | .number value => toString value
  | .truth value => if value then "True" else "False"

/-- The number as it is written into a text, unless it has too many digits. -/
def written? : Tally → Option String
  | .number value => Numeral.writeWhole? value
  | .truth value => some (Tally.truth value).text

end Tally

end Narrative
