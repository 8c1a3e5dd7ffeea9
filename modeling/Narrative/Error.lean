/-
Module: Narrative.Error
Purpose: What can be wrong with the expressions of a story, when it is compiled and when it runs.
Main exports: Reason, CompileError, EvaluationError, and their messages
-/
import Narrative.Numeral.Whole

namespace Narrative

/-- Why an expression cannot be read. -/
inductive Reason where
  | notEnoughArguments
  | targetNotPlain
  | unknownSign (sign : Char)
  | blankInTag
  | missingOperand
  | missingOperator
  | empty
deriving Repr, DecidableEq

/-- The reason in words. -/
def Reason.text : Reason → String
  | .notEnoughArguments => "not enough arguments"
  | .targetNotPlain => "focus target must be a plain key"
  | .unknownSign sign => "unknown prefix '" ++ sign.toString ++ "'"
  | .blankInTag => "tags may not contain whitespace"
  | .missingOperand => "missing operand"
  | .missingOperator => "missing operator"
  | .empty => "empty expression"

/-- The bracket that has no partner's counterpart in an expression. -/
inductive MissingBracket where
  | opening
  | closing
deriving Repr, DecidableEq

/-- The missing bracket in words. -/
def MissingBracket.text : MissingBracket → String
  | .opening => "missing opening bracket"
  | .closing => "missing closing bracket"

/-- What is wrong with an expression, or with a key, when a world is compiled. -/
inductive CompileError where
  | malformedReference (expression : String)
  | invalidExpression (expression : String) (reason : Reason)
  | unbalanced (expression : String) (missing : MissingBracket)
  | duplicateKey (key : String)
deriving Repr, DecidableEq

/-- An expression that cannot be read, with the reason in brackets. -/
private def unreadable (expression reason : String) : String :=
  "Could not parse expression: \"" ++ expression ++ "\" (" ++ reason ++ ")"

/-- The message for the author of the story. -/
def CompileError.message : CompileError → String
  | .malformedReference expression => "Malformed reference: \"" ++ expression ++ "\""
  | .invalidExpression expression reason => unreadable expression reason.text
  | .unbalanced expression missing => unreadable expression missing.text
  | .duplicateKey key => "Element with key \"" ++ key ++ "\" is ambiguous with another element."

/-- What a key was expected to name. -/
inductive Sought where
  | element
  | location
  | startLocation
deriving Repr, DecidableEq

/-- The expected thing in words. -/
def Sought.text : Sought → String
  | .element => "element"
  | .location => "location"
  | .startLocation => "start location"

/-- What can go wrong when a story is evaluated: a key that names no suitable entity, an event sent
to the inventory, or a number of tellings that is too long to be written in front of a text. -/
inductive EvaluationError where
  | unknownReference (key : String) (sought : Sought)
  | inventoryEvent (reference : String)
  | unwritableCount
deriving Repr, DecidableEq

/-- The message shown to the player. -/
def EvaluationError.message : EvaluationError → String
  | .unknownReference key sought => "Unable to find " ++ sought.text ++ " with key \"" ++ key ++ "\"."
  | .inventoryEvent reference =>
    "Cannot delegate impact event '" ++ reference ++ "' to the inventory."
  | .unwritableCount => Numeral.tooLongToWrite

/-- Whether the player is told of the error and the story goes on. A number that cannot be written
is not foreseen. -/
def EvaluationError.isTold : EvaluationError → Bool
  | .unwritableCount => false
  | _ => true

end Narrative
