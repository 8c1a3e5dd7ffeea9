/-
Module: Narrative.Yaml.Document
Purpose: Reading the text of a document.
Main exports: Document.load
-/
import Narrative.Yaml.Value.OfNodes

namespace Narrative.Yaml.Document

/-- Whether a document may hold the character. -/
def isReadable (c : Char) : Bool :=
  let n := c.toNat
  n == 0x9 || n == 0xa || n == 0xd || (0x20 ≤ n && n ≤ 0x7e) || n == 0x85 ||
    (0xa0 ≤ n && n ≤ 0xfffd) || 0x10000 ≤ n

/-- The position and the code of the first character that no document may hold. -/
def firstUnreadable? (position : Nat) : List Char → Option (Nat × Nat)
  | [] => none
  | c :: rest =>
    if isReadable c then firstUnreadable? (position + 1) rest else some (c.toNat, position)

/-- Reads a document. An empty document has the value of nothing. -/
def load (text : List Char) : Except Fault Document :=
  match firstUnreadable? 0 text with
  | some (code, position) => .error (.unreadable code position)
  | none => do
    match ← Composition.ofTokens? (tokens text) with
    | none => return ⟨.scalar .null, #[]⟩
    | some composition => ofNodes composition

end Narrative.Yaml.Document
