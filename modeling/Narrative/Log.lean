/-
Module: Narrative.Log
Purpose: Records of what went wrong without stopping the story.
Main exports: Severity, LogSource, LogRecord
-/

namespace Narrative

/-- How bad it is. -/
inductive Severity where
  | warning
  | error
deriving Repr, DecidableEq

/-- The part of the program that noticed it. -/
inductive LogSource where
  | builder
  | engine
  | events
  | markup
deriving Repr, DecidableEq

/-- A record of the log. -/
structure LogRecord where
  severity : Severity
  source : LogSource
  message : String
deriving Repr, DecidableEq

end Narrative
