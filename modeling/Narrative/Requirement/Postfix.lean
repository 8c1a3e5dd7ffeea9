/-
Module: Narrative.Requirement.Postfix
Purpose: The tokens of a requirement in postfix order, by operator precedence.
Main exports: Step, Step.ofTokens
-/
import Narrative.Error
import Narrative.Requirement.Token

namespace Narrative

/-- A step of a postfix expression. -/
inductive Step where
  | operand (text : List Char)
  | operator (op : Operator)
deriving Repr, DecidableEq

/-- An operator or an opening bracket that waits for the end of its operand. -/
inductive Waiting where
  | operator (op : Operator)
  | opening
deriving Repr, DecidableEq

/-- Whether a waiting operator has to be applied before the new one takes its place: it binds at
least as tightly. Negation stands in front of its operand and so ends nothing. -/
def Operator.yieldsTo (waiting new : Operator) : Bool :=
  match new, waiting with
  | .not, _ => false
  | .and, .or => false
  | .and, _ => true
  | .or, _ => true

namespace Step

/-- The operators on top of the stack that are applied before the new one, and the rest of the
stack. -/
def release (new : Operator) : List Waiting → List Step × List Waiting
  | .operator op :: stack =>
    if op.yieldsTo new then
      let (steps, rest) := release new stack
      (.operator op :: steps, rest)
    else ([], .operator op :: stack)
  | stack => ([], stack)

/-- The operators down to the last opening bracket, and the stack below it; none if no bracket is
open. -/
def close? : List Waiting → Option (List Step × List Waiting)
  | [] => none
  | .opening :: stack => some ([], stack)
  | .operator op :: stack => do
    let (steps, rest) ← close? stack
    return (.operator op :: steps, rest)

/-- The operators that are left at the end, none if a bracket is still open. -/
def finish? : List Waiting → Option (List Step)
  | [] => some []
  | .opening :: _ => none
  | .operator op :: stack => (finish? stack).map (.operator op :: ·)

/-- The steps for the tokens that are left, while the given operators and brackets wait. -/
def arrange : List Waiting → List Token → Except MissingBracket (List Step)
  | stack, [] =>
    match finish? stack with
    | some steps => .ok steps
    | none => .error .closing
  | stack, .atom text :: tokens => do
    return .operand text :: (← arrange stack tokens)
  | stack, .operator op :: tokens => do
    let (steps, rest) := release op stack
    return steps ++ (← arrange (.operator op :: rest) tokens)
  | stack, .opening :: tokens => arrange (.opening :: stack) tokens
  | stack, .closing :: tokens =>
    match close? stack with
    | some (steps, rest) => do return steps ++ (← arrange rest tokens)
    | none => .error .opening

/-- The tokens in postfix order: negation binds more tightly than conjunction, conjunction more
tightly than disjunction, and both of these group to the left. -/
def ofTokens (tokens : List Token) : Except MissingBracket (List Step) := arrange [] tokens

/-- The characters of a step. -/
def text : Step → List Char
  | .operand text => text
  | .operator op => [op.sign]

end Step

end Narrative
