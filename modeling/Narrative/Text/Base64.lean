/-
Module: Narrative.Text.Base64
Purpose: Bytes that are written as characters of six bits each, in groups of four.
Main exports: Base64Fault, decodeBase64
-/

namespace Narrative.Text

/-- Why characters do not stand for bytes: the last group holds one character only, after so many in
full groups, or it lacks its padding. -/
inductive Base64Fault where
  | loneCharacter (before : Nat)
  | noPadding
deriving Repr, DecidableEq

/-- The fault in words. -/
def Base64Fault.message : Base64Fault → String
  | .loneCharacter before =>
    "Invalid base64-encoded string: number of data characters (" ++ toString (before + 1) ++
      ") cannot be 1 more than a multiple of 4"
  | .noPadding => "Incorrect padding"

/-- The value of a character that stands for six bits. -/
def sixBits? (c : Char) : Option Nat :=
  if c.isUpper then some (c.toNat - 0x41)
  else if c.isLower then some (c.toNat - 0x47)
  else if c.isDigit then some (c.toNat + 4)
  else if c == '+' then some 62
  else if c == '/' then some 63
  else none

/-- The whole bytes in the bits of a group. -/
def groupBytes : List Nat → List Nat
  | [a, b] => [a * 4 + b / 16]
  | [a, b, c] => [a * 4 + b / 16, b % 16 * 16 + c / 4]
  | [a, b, c, d] => [a * 4 + b / 16, b % 16 * 16 + c / 4, c % 4 * 64 + d]
  | _ => []

/-- Reads what is left of a text after so many full groups, the values of a part of a group, and the
padding that came next. Enough padding ends the text, and what is no character of six bits does not
count. -/
def decodeGroups (groups : Nat) (group : List Nat) (padding : Nat) :
    List Char → Except Base64Fault (List Nat)
  | [] =>
    match group with
    | [] => .ok []
    | [_] => .error (.loneCharacter (4 * groups))
    | _ => .error .noPadding
  | c :: rest =>
    if c == '=' then
      if group.length < 2 then decodeGroups groups group padding rest
      else if group.length + padding + 1 < 4 then decodeGroups groups group (padding + 1) rest
      else .ok (groupBytes group)
    else
      match sixBits? c with
      | none => decodeGroups groups group padding rest
      | some value =>
        let group := group ++ [value]
        if group.length < 4 then decodeGroups groups group 0 rest
        else do return groupBytes group ++ (← decodeGroups (groups + 1) [] 0 rest)

/-- The bytes that a text stands for. -/
def decodeBase64 (cs : List Char) : Except Base64Fault (List Nat) := decodeGroups 0 [] 0 cs

end Narrative.Text
