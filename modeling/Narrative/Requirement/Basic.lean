/-
Module: Narrative.Requirement.Basic
Purpose: Requirements: boolean expressions over references, read once and evaluated against the
  facts of a story.
Main exports: Requirement, Requirement.parse, Requirement.references, Requirement.evaluate
-/
import Narrative.Requirement.Formula

namespace Narrative

/-- A requirement that has been read: the text that the author wrote and its formula. -/
structure Requirement where
  text : String
  formula : Formula
deriving Repr, DecidableEq

namespace Requirement

/-- Reads a requirement. Brackets are matched before anything else is looked at. -/
def parse (text : String) : Except CompileError Requirement :=
  match Step.ofTokens (Token.ofText text.toList) with
  | .error missing => .error (.unbalanced text missing)
  | .ok steps => do return ⟨text, ← Formula.ofSteps text steps⟩

/-- The references of the requirement, from left to right, with repetitions. -/
def references (requirement : Requirement) : List Reference := requirement.formula.references

/-- The value of the requirement under the answers to its facts. -/
def evaluate {m : Type → Type} [Monad m] (requirement : Requirement) (ask : Reference → m Bool) :
    m Bool :=
  requirement.formula.evaluate ask

end Requirement

end Narrative
