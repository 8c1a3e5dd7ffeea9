/-
Module: Narrative.Yaml.Token.Basic
Purpose: The tokens of a document.
Main exports: TokenKind, Token, ScalarStyle
-/
import Narrative.Yaml.Fault

namespace Narrative.Yaml

/-- How a scalar is written: without marks, or in one of the forms that have marks. -/
inductive ScalarStyle where
  | plain
  | marked
deriving Repr, DecidableEq

/-- A tag as it is written: a suffix, after a handle unless it is written in full. -/
structure TagName where
  handle? : Option String
  suffix : String
deriving Repr, DecidableEq

/-- A directive at the beginning of a document. -/
inductive Directive where
  | version (major minor : Nat)
  | tag (handle affix : String)
  | other (name : String)
deriving Repr, DecidableEq

/-- What a token stands for. -/
inductive TokenKind where
  | streamStart
  | streamEnd
  | directive (directive : Directive)
  | documentStart
  | documentEnd
  | blockSequenceStart
  | blockMappingStart
  | blockEnd
  | flowSequenceStart
  | flowSequenceEnd
  | flowMappingStart
  | flowMappingEnd
  | flowEntry
  | blockEntry
  | key
  | value
  | alias (name : String)
  | anchor (name : String)
  | tag (name : TagName)
  | scalar (style : ScalarStyle) (text : List Char)
deriving Repr, DecidableEq

/-- A token in a complaint. -/
def TokenKind.name : TokenKind → String
  | .streamStart => "<stream start>"
  | .streamEnd => "<stream end>"
  | .directive _ => "<directive>"
  | .documentStart => "<document start>"
  | .documentEnd => "<document end>"
  | .blockSequenceStart => "<block sequence start>"
  | .blockMappingStart => "<block mapping start>"
  | .blockEnd => "<block end>"
  | .flowSequenceStart => "["
  | .flowSequenceEnd => "]"
  | .flowMappingStart => "\x7b"
  | .flowMappingEnd => "\x7d"
  | .flowEntry => ","
  | .blockEntry => "-"
  | .key => "?"
  | .value => ":"
  | .alias _ => "<alias>"
  | .anchor _ => "<anchor>"
  | .tag _ => "<tag>"
  | .scalar .. => "<scalar>"

/-- A token with the places where it begins and ends. -/
structure Token where
  kind : TokenKind
  start : Mark
  stop : Mark
deriving Repr

end Narrative.Yaml
