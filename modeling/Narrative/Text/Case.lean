/-
Module: Narrative.Text.Case
Purpose: Text in lower and in upper case, in every script.
Main exports: lower, upper
-/
import Narrative.Text.CaseTable

namespace Narrative.Text

/-- The image of a character under a case mapping: the characters of its expansion, else its shifted
form, else itself. -/
private def mapCase (expansions : Array (Nat × List Nat)) (shifts : Array CaseShift) (c : Char) :
    List Char :=
  match expansions.find? (·.1 == c.toNat) with
  | some (_, codes) => codes.map Char.ofNat
  | none => [((shifts.findSome? (·.image? c.toNat)).map Char.ofNat).getD c]

/-- Whether the nearest character that a search does not skip is cased. -/
private def meetsCased (cs : List Char) : Bool :=
  match cs.dropWhile (Span.anyCovers caseIgnorableSpans) with
  | [] => false
  | c :: _ => Span.anyCovers casedSpans c

/-- The lower case form of one character; `before` holds the characters before it, the nearest
first, and `after` those after it. A sigma that ends a word has a form of its own. -/
def lowerAt (before : List Char) (c : Char) (after : List Char) : List Char :=
  if c.toNat < 0x80 then [c.toLower]
  else if c = 'Σ' then [if meetsCased before && !meetsCased after then 'ς' else 'σ']
  else mapCase lowerExpansions lowerShifts c

/-- The upper case form of one character. -/
def upperOf (c : Char) : List Char :=
  if c.toNat < 0x80 then [c.toUpper] else mapCase upperExpansions upperShifts c

/-- The rest of a text in lower case, given the characters before it. -/
def lowerFrom : List Char → List Char → List Char
  | _, [] => []
  | before, c :: after => lowerAt before c after ++ lowerFrom (c :: before) after

/-- The text in lower case. -/
def lower (s : String) : String := String.ofList (lowerFrom [] s.toList)

/-- The text in upper case. -/
def upper (s : String) : String := String.ofList (s.toList.flatMap upperOf)

end Narrative.Text
