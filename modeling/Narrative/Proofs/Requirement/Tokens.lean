/-
Module: Narrative.Proofs.Requirement.Tokens
Purpose: Cutting an expression into tokens undoes writing the tokens one after the other, wherever
  blanks are put into the written text.
Main exports: Token.spelling, AtomText, Token.Lexed, Token.ofText_of_spelling, Token.spelling_ofText,
  Token.lexed_ofText
-/
import Narrative.Requirement.Token

namespace Narrative

/-- The characters that an atom can have: neither blanks nor signs. -/
def PlainChar (c : Char) : Prop := Text.isBlank c = false ∧ Token.ofSign? c = none

instance (c : Char) : Decidable (PlainChar c) := inferInstanceAs (Decidable (_ ∧ _))

/-- The text of an atom: a run of plain characters that is not empty. -/
structure AtomText (text : List Char) : Prop where
  nonempty : text ≠ []
  plain : ∀ c ∈ text, PlainChar c

instance (text : List Char) : Decidable (AtomText text) :=
  decidable_of_iff (text ≠ [] ∧ text.all (decide <| PlainChar ·) = true)
    ⟨fun ⟨nonempty, plain⟩ => ⟨nonempty, by simpa using plain⟩,
      fun isText => ⟨isText.nonempty, by simpa using isText.plain⟩⟩

namespace Token

/-- The tokens written one after the other. -/
def spelling (tokens : List Token) : List Char := tokens.flatMap Token.text

@[simp] theorem spelling_cons (token : Token) (tokens : List Token) :
    spelling (token :: tokens) = token.text ++ spelling tokens := rfl

/-- Whether the token is an atom. -/
def isAtom : Token → Bool
  | .atom _ => true
  | _ => false

/-- Tokens as they come out of a text: atoms have the text of atoms, and no atom touches another. -/
def Lexed : List Token → Prop
  | [] => True
  | .atom text :: rest => AtomText text ∧ (∀ next ∈ rest.head?, next.isAtom = false) ∧ Lexed rest
  | _ :: rest => Lexed rest

/-- Two pieces can be put together where the second does not begin with an atom. -/
theorem Lexed.append {left right : List Token} (first : Lexed left) (second : Lexed right)
    (apart : ∀ next ∈ right.head?, next.isAtom = false) : Lexed (left ++ right) := by
  induction left with
  | nil => exact second
  | cons token rest ih =>
      cases token with
      | atom text =>
          obtain ⟨isText, alone, lexed⟩ := first
          refine ⟨isText, ?_, ih lexed⟩
          cases rest with
          | nil => exact apart
          | cons _ _ => exact alone
      | operator op => exact ih first
      | opening => exact ih first
      | closing => exact ih first

/-- No blanks are written. -/
theorem filter_spelling {tokens : List Token} (lexed : Lexed tokens) :
    (spelling tokens).filter (!Text.isBlank ·) = spelling tokens := by
  induction tokens with
  | nil => rfl
  | cons token rest ih =>
      rw [spelling_cons, List.filter_append]
      cases token with
      | atom text =>
          obtain ⟨isText, _, others⟩ := lexed
          have kept : text.filter (!Text.isBlank ·) = text := by
            apply List.filter_eq_self.2
            intro c mem
            rw [(isText.plain c mem).1]
            rfl
          rw [ih others, Token.text, kept]
      | operator op =>
          rw [ih lexed]
          cases op <;> rfl
      | opening => rw [ih lexed]; rfl
      | closing => rw [ih lexed]; rfl

/-! ### From the written tokens back to the tokens -/

/-- The sign of an operator is that operator. -/
@[simp] theorem ofSign?_sign (op : Operator) : ofSign? op.sign = some (.operator op) := by
  cases op <;> rfl

/-- A sign is neither a blank -/
theorem isBlank_of_sign {c : Char} {token : Token} (sign : ofSign? c = some token) :
    Text.isBlank c = false := by
  unfold ofSign? at sign
  split at sign <;> cases sign <;> rfl

/-- nor an atom. -/
theorem isAtom_of_sign {c : Char} {token : Token} (sign : ofSign? c = some token) :
    token.isAtom = false := by
  unfold ofSign? at sign
  split at sign <;> cases sign <;> rfl

theorem push_operator (op : Operator) (tokens : List Token) :
    push op.sign tokens = .operator op :: tokens := by
  simp only [push, ofSign?_sign]

theorem push_plain_of_atom {c : Char} (plain : PlainChar c) (text : List Char)
    (tokens : List Token) : push c (.atom text :: tokens) = .atom (c :: text) :: tokens := by
  simp only [push, plain.2]

theorem push_plain_of_not_atom {c : Char} (plain : PlainChar c) {tokens : List Token}
    (apart : ∀ next ∈ tokens.head?, next.isAtom = false) :
    push c tokens = .atom [c] :: tokens := by
  unfold push
  rw [plain.2]
  cases tokens with
  | nil => rfl
  | cons token rest =>
      cases token with
      | atom text => exact absurd (apart (.atom text) rfl) (by simp [isAtom])
      | operator op => rfl
      | opening => rfl
      | closing => rfl

/-- The characters of an atom gather in one token. -/
theorem foldr_push_atom {text : List Char} (isText : AtomText text) {tokens : List Token}
    (apart : ∀ next ∈ tokens.head?, next.isAtom = false) :
    text.foldr push tokens = .atom text :: tokens := by
  obtain ⟨nonempty, plain⟩ := isText
  induction text with
  | nil => exact absurd rfl nonempty
  | cons c rest ih =>
      have plainHead : PlainChar c := plain c List.mem_cons_self
      rw [List.foldr_cons]
      by_cases last : rest = []
      · rw [last]
        exact push_plain_of_not_atom plainHead apart
      · rw [ih last fun d mem => plain d (List.mem_cons_of_mem c mem)]
        exact push_plain_of_atom plainHead rest tokens

/-- Cutting the written tokens into tokens gives them back. -/
theorem foldr_push_spelling {tokens : List Token} (lexed : Lexed tokens) :
    (spelling tokens).foldr push [] = tokens := by
  induction tokens with
  | nil => rfl
  | cons token rest ih =>
      rw [spelling_cons, List.foldr_append]
      cases token with
      | atom text =>
          obtain ⟨isText, apart, others⟩ := lexed
          rw [ih others]
          exact foldr_push_atom isText apart
      | operator op =>
          rw [ih lexed]
          exact push_operator op rest
      | opening =>
          rw [ih lexed]
          rfl
      | closing =>
          rw [ih lexed]
          rfl

/-- A text that spells tokens, apart from blanks anywhere in it, is cut into these tokens. -/
theorem ofText_of_spelling {tokens : List Token} {cs : List Char} (lexed : Lexed tokens)
    (spelled : cs.filter (!Text.isBlank ·) = spelling tokens) : ofText cs = tokens := by
  rw [ofText, spelled]
  exact foldr_push_spelling lexed

/-! ### What comes out of a text -/

theorem spelling_push (c : Char) (tokens : List Token) :
    spelling (push c tokens) = c :: spelling tokens := by
  unfold push
  split
  next token sign =>
    unfold ofSign? at sign
    split at sign <;> cases sign <;> rfl
  next =>
    split <;> rfl

/-- Cutting a text into tokens loses its blanks only. -/
theorem spelling_ofText (text : List Char) :
    spelling (ofText text) = text.filter (!Text.isBlank ·) := by
  unfold ofText
  induction text.filter (!Text.isBlank ·) with
  | nil => rfl
  | cons c rest ih => rw [List.foldr_cons, spelling_push, ih]

theorem lexed_push {c : Char} (filled : Text.isBlank c = false) {tokens : List Token}
    (lexed : Lexed tokens) : Lexed (push c tokens) := by
  cases sign : ofSign? c with
  | some token =>
      have notAtom := isAtom_of_sign sign
      have pushed : push c tokens = token :: tokens := by simp only [push, sign]
      rw [pushed]
      cases token with
      | atom text => cases notAtom
      | operator op => exact lexed
      | opening => exact lexed
      | closing => exact lexed
  | none =>
      have plain : PlainChar c := ⟨filled, sign⟩
      have single : AtomText [c] := ⟨by simp, by simpa using plain⟩
      rcases tokens with _ | ⟨_ | _ | _ | _, rest⟩
      case nil =>
          rw [push_plain_of_not_atom plain (by simp)]
          exact ⟨single, by simp, lexed⟩
      case cons.atom text =>
          obtain ⟨isText, apart, others⟩ := lexed
          rw [push_plain_of_atom plain]
          refine ⟨⟨by simp, ?_⟩, apart, others⟩
          intro d mem
          rcases List.mem_cons.1 mem with rfl | mem
          · exact plain
          · exact isText.plain d mem
      all_goals
          rw [push_plain_of_not_atom plain (by simp [isAtom])]
          exact ⟨single, by simp [isAtom], lexed⟩

/-- The tokens of a text are what tokens have to be. -/
theorem lexed_ofText (cs : List Char) : Lexed (ofText cs) := by
  unfold ofText
  induction cs with
  | nil => trivial
  | cons c rest ih =>
      rw [List.filter_cons]
      split
      · next filled => exact lexed_push (by simpa using filled) ih
      · exact ih

/-- The text of an atom that comes out of an expression is a run of plain characters. -/
theorem atomText_of_mem {tokens : List Token} (lexed : Lexed tokens) {text : List Char}
    (mem : .atom text ∈ tokens) : AtomText text := by
  induction tokens with
  | nil => cases mem
  | cons token rest ih =>
      have others : Lexed rest := by
        cases token with
        | atom _ => exact lexed.2.2
        | operator _ => exact lexed
        | opening => exact lexed
        | closing => exact lexed
      rcases List.mem_cons.1 mem with rfl | mem
      · exact lexed.1
      · exact ih others mem

end Token

end Narrative
