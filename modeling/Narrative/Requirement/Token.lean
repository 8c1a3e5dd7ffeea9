/-
Module: Narrative.Requirement.Token
Purpose: The tokens of a requirement expression.
Main exports: Operator, Token, Token.ofText
-/
import Narrative.Text.Blank

namespace Narrative

/-- The operators of requirements. -/
inductive Operator where
  | not
  | and
  | or
deriving Repr, DecidableEq

/-- The sign of an operator. -/
def Operator.sign : Operator → Char
  | .not => '!'
  | .and => '*'
  | .or => '+'

/-- A token: an operator, a bracket, or an atom, which is a run of other characters. -/
inductive Token where
  | atom (text : List Char)
  | operator (op : Operator)
  | opening
  | closing
deriving Repr, DecidableEq

namespace Token

/-- The token that a character is by itself. -/
def ofSign? : Char → Option Token
  | '!' => some (.operator .not)
  | '*' => some (.operator .and)
  | '+' => some (.operator .or)
  | '(' => some .opening
  | ')' => some .closing
  | _ => none

/-- The characters of a token. -/
def text : Token → List Char
  | .atom text => text
  | .operator op => [op.sign]
  | .opening => ['(']
  | .closing => [')']

/-- Puts a character in front of tokens: a sign is a token of its own, and any other character
begins the atom that it touches. -/
def push (c : Char) (tokens : List Token) : List Token :=
  match ofSign? c with
  | some token => token :: tokens
  | none =>
    match tokens with
    | .atom text :: rest => .atom (c :: text) :: rest
    | _ => .atom [c] :: tokens

/-- The tokens of an expression. Blanks are left out, also those inside an atom. -/
def ofText (cs : List Char) : List Token := (cs.filter (!Text.isBlank ·)).foldr push []

end Token

end Narrative
