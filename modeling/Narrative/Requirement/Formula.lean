/-
Module: Narrative.Requirement.Formula
Purpose: Boolean formulas over references, and the asking of their facts.
Main exports: Formula, Formula.references, Formula.evaluate, Formula.ofSteps
-/
import Narrative.Reference
import Narrative.Requirement.Postfix

namespace Narrative

/-- A boolean formula over facts. -/
inductive Formula where
  | fact (reference : Reference)
  | not (operand : Formula)
  | and (left right : Formula)
  | or (left right : Formula)
deriving Repr, DecidableEq

namespace Formula

/-- The references of the formula, from left to right, with repetitions. -/
def references : Formula → List Reference
  | .fact reference => [reference]
  | .not operand => operand.references
  | .and left right | .or left right => left.references ++ right.references

/-- The value of the formula. Every fact is asked for, from left to right, whatever the answers to
those before it. -/
def evaluate {m : Type → Type} [Monad m] (ask : Reference → m Bool) : Formula → m Bool
  | .fact reference => ask reference
  | .not operand => do return !(← operand.evaluate ask)
  | .and left right => do
    let l ← left.evaluate ask
    let r ← right.evaluate ask
    return l && r
  | .or left right => do
    let l ← left.evaluate ask
    let r ← right.evaluate ask
    return l || r

/-- One step of the assembly, on the formulas that wait to become operands, the last first. -/
def push (expression : String) (step : Step) (stack : List Formula) :
    Except CompileError (List Formula) :=
  match step, stack with
  | .operand text, stack => do return .fact (← Reference.parse (String.ofList text)) :: stack
  | .operator .not, operand :: stack => .ok (.not operand :: stack)
  | .operator .and, right :: left :: stack => .ok (.and left right :: stack)
  | .operator .or, right :: left :: stack => .ok (.or left right :: stack)
  | .operator _, _ => .error (.invalidExpression expression .missingOperand)

/-- The formula that postfix steps build. -/
def ofSteps (expression : String) (steps : List Step) : Except CompileError Formula := do
  match ← steps.foldlM (fun stack step => push expression step stack) [] with
  | [formula] => return formula
  | [] => .error (.invalidExpression expression .empty)
  | _ :: _ :: _ => .error (.invalidExpression expression .missingOperator)

end Formula

end Narrative
