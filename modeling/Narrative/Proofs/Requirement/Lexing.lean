/-
Module: Narrative.Proofs.Requirement.Lexing
Purpose: The tokens of an expression, piece by piece and from left to right. The tokens of two pieces are
  those of the first and then those of the second, except that an atom at the seam goes on; so nothing of
  an expression but its blanks is lost, and a sign cuts it where it stands.
Main exports: Token.before, Token.join, Token.ofText_append, Token.ofText_sign, Token.Lexer,
  Token.flushed_read, Token.ofText_eq_iff, Token.ofText_lossless
-/
import Mathlib.Data.List.Chain
import Narrative.Proofs.Requirement.Tokens

namespace Narrative.Token

/-! ### Pieces of an expression -/

/-- A token in front of others: where an atom comes before an atom, the two are one. -/
def before : Token → List Token → List Token
  | .atom text, .atom more :: rest => .atom (text ++ more) :: rest
  | token, rest => token :: rest

/-- The tokens of two pieces of an expression, one after the other. -/
def join (left right : List Token) : List Token := left.foldr before right

theorem before_of_not_atom {token : Token} (sign : token.isAtom = false) (rest : List Token) :
    token.before rest = token :: rest := by
  cases token with
  | atom text => cases sign
  | operator | opening | closing => rfl

theorem before_of_apart (token : Token) {rest : List Token}
    (apart : ∀ next ∈ rest.head?, next.isAtom = false) : token.before rest = token :: rest := by
  rcases rest with _ | ⟨_ | _ | _ | _, rest⟩
  case cons.atom more => cases apart (.atom more) rfl
  all_goals cases token <;> rfl

/-- Two atoms that are put in front, one and then the other, are put in front as one. -/
theorem before_before (text more : List Char) (rest : List Token) :
    before (.atom text) (before (.atom more) rest) = before (.atom (text ++ more)) rest := by
  rcases rest with _ | ⟨_ | _ | _ | _, rest⟩
  case cons.atom last => exact congrArg (fun whole => .atom whole :: rest) (List.append_assoc ..).symm
  all_goals rfl

/-- Every character is put in front of tokens as the token that it is by itself. -/
theorem push_eq_before (c : Char) (tokens : List Token) :
    push c tokens = ((ofSign? c).getD (.atom [c])).before tokens := by
  unfold push
  split
  next token sign =>
    rw [sign, Option.getD_some, before_of_not_atom (isAtom_of_sign sign)]
  next plain =>
    rw [plain, Option.getD_none]
    rcases tokens with _ | ⟨_ | _ | _ | _, rest⟩ <;> rfl

theorem join_before (token : Token) (left right : List Token) :
    join (token.before left) right = token.before (join left right) := by
  rcases left with _ | ⟨_ | _ | _ | _, left⟩
  case cons.atom more =>
    cases token with
    | atom text => exact (before_before text more (join left right)).symm
    | operator | opening | closing => rfl
  all_goals cases token <;> rfl

/-- Tokens that came out of a text stay as they are where no atom follows their last. -/
theorem join_of_apart {left right : List Token} (lexed : Lexed left)
    (apart : ∀ next ∈ right.head?, next.isAtom = false) : join left right = left ++ right := by
  induction left with
  | nil => rfl
  | cons token rest ih =>
      change before token (join rest right) = token :: (rest ++ right)
      cases token with
      | atom text =>
          obtain ⟨_, alone, others⟩ := lexed
          rw [ih others]
          refine before_of_apart _ ?_
          cases rest with
          | nil => exact apart
          | cons _ _ => exact alone
      | operator | opening | closing => rw [ih lexed, before_of_not_atom rfl]

/-! ### The tokens of pieces -/

theorem ofText_blank {c : Char} (blank : Text.isBlank c = true) (text : List Char) :
    ofText (c :: text) = ofText text := by
  rw [ofText, List.filter_cons_of_neg (by simp [blank]), ofText]

theorem ofText_filled {c : Char} (filled : Text.isBlank c = false) (text : List Char) :
    ofText (c :: text) = push c (ofText text) := by
  rw [ofText, List.filter_cons_of_pos (by simp [filled]), List.foldr_cons, ofText]

/-- The tokens of a text in two pieces, wherever it is cut. -/
theorem ofText_append (left right : List Char) :
    ofText (left ++ right) = join (ofText left) (ofText right) := by
  induction left with
  | nil => rfl
  | cons c left ih =>
      rw [List.cons_append]
      cases blank : Text.isBlank c with
      | true => rw [ofText_blank blank, ofText_blank blank, ih]
      | false =>
          rw [ofText_filled blank, ofText_filled blank, ih, push_eq_before, push_eq_before,
            join_before]

/-- A sign ends the tokens before it, and those after it begin anew. -/
theorem ofText_sign {c : Char} {token : Token} (sign : ofSign? c = some token)
    (left right : List Char) :
    ofText (left ++ c :: right) = ofText left ++ token :: ofText right := by
  have notAtom := isAtom_of_sign sign
  have first : ofText (c :: right) = token :: ofText right := by
    rw [ofText_filled (isBlank_of_sign sign), push_eq_before, sign, Option.getD_some,
      before_of_not_atom notAtom]
  rw [ofText_append, first]
  exact join_of_apart (lexed_ofText left) (by simpa using notAtom)

/-- Texts have the same tokens exactly if they differ in their blanks only. -/
theorem ofText_eq_iff {one other : List Char} :
    ofText one = ofText other ↔
      one.filter (!Text.isBlank ·) = other.filter (!Text.isBlank ·) := by
  constructor
  · intro same
    rw [← spelling_ofText, same, spelling_ofText]
  · intro same
    rw [ofText, same, ofText]

/-! ### From left to right -/

/-- How far the tokens of an expression have been read: those that are complete, and the characters of
an atom that may still go on. -/
structure Lexer where
  complete : List Token := []
  gathered : List Char := []

namespace Lexer

/-- The atom of the gathered characters, if there are any. -/
def pending (lexer : Lexer) : List Token :=
  if lexer.gathered.isEmpty then [] else [.atom lexer.gathered]

/-- The tokens if nothing follows. -/
def flushed (lexer : Lexer) : List Token := lexer.complete ++ lexer.pending

/-- Reads a character: a blank is passed over, also inside an atom, a sign completes the atom, and any
other character goes on with it. -/
def read (lexer : Lexer) (c : Char) : Lexer :=
  if Text.isBlank c then lexer
  else
    match ofSign? c with
    | some token => ⟨lexer.flushed ++ [token], []⟩
    | none => { lexer with gathered := lexer.gathered ++ [c] }

end Lexer

/-- Whatever has been read before, reading on gives the tokens of the text that is left, which may go on
with the gathered atom. The induction is on that text. -/
theorem flushed_read (lexer : Lexer) (text : List Char) :
    (text.foldl Lexer.read lexer).flushed = lexer.complete ++ join lexer.pending (ofText text) := by
  induction text generalizing lexer with
  | nil =>
      rw [List.foldl_nil, Lexer.flushed, Lexer.pending]
      split <;> rfl
  | cons c text ih =>
      obtain ⟨complete, gathered⟩ := lexer
      rw [List.foldl_cons, ih]
      cases blank : Text.isBlank c with
      | true => rw [ofText_blank blank, Lexer.read, if_pos blank]
      | false =>
          rw [ofText_filled blank, push_eq_before, Lexer.read, if_neg (by simp [blank])]
          cases sign : ofSign? c with
          | some token =>
              have notAtom := isAtom_of_sign sign
              rw [Option.getD_some, before_of_not_atom notAtom]
              cases gathered with
              | nil => simp [Lexer.flushed, Lexer.pending, join]
              | cons first more =>
                  have apart : before (.atom (first :: more)) (token :: ofText text) =
                      .atom (first :: more) :: token :: ofText text :=
                    before_of_apart _ (by simpa using notAtom)
                  simp [Lexer.flushed, Lexer.pending, join, apart]
          | none =>
              rw [Option.getD_none]
              cases gathered with
              | nil => rfl
              | cons first more =>
                  exact congrArg (complete ++ ·) (before_before (first :: more) [c] (ofText text)).symm

/-! ### Tokens of texts -/

/-- The characters that are tokens by themselves. -/
def signs : List Char := ['!', '*', '+', '(', ')']

/-- A token as a text can have it: a sign by itself, or a run of characters that are neither signs nor
blanks. -/
inductive IsToken : Token → Prop
  | sign {c : Char} {token : Token} (isSign : c ∈ signs) (single : token.text = [c])
      (notAtom : token.isAtom = false) : IsToken token
  | run {text : List Char} (filled : text ≠ [])
      (plain : ∀ c ∈ text, c ∉ signs ∧ Text.isBlank c = false) : IsToken (.atom text)

/-- Not both of two tokens are atoms. -/
def Apart (one next : Token) : Prop := ¬ (one.isAtom = true ∧ next.isAtom = true)

theorem ofSign?_eq_none_iff {c : Char} : ofSign? c = none ↔ c ∉ signs := by
  unfold ofSign? signs
  split <;> simp_all

theorem exists_of_mem_signs {c : Char} (isSign : c ∈ signs) :
    ∃ token, ofSign? c = some token ∧ token.text = [c] := by
  simp only [signs, List.mem_cons, List.not_mem_nil, or_false] at isSign
  rcases isSign with rfl | rfl | rfl | rfl | rfl <;> exact ⟨_, rfl, rfl⟩

theorem isToken_atom_iff {text : List Char} : IsToken (.atom text) ↔ AtomText text := by
  constructor
  · intro isToken
    cases isToken with
    | sign _ _ notAtom => cases notAtom
    | run filled plain =>
        exact ⟨filled, fun c inside => ⟨(plain c inside).2, ofSign?_eq_none_iff.2 (plain c inside).1⟩⟩
  · rintro ⟨filled, plain⟩
    exact .run filled fun c inside => ⟨ofSign?_eq_none_iff.1 (plain c inside).2, (plain c inside).1⟩

theorem isToken_of_not_atom {token : Token} (notAtom : token.isAtom = false) : IsToken token := by
  cases token with
  | atom text => cases notAtom
  | operator op => cases op <;> exact .sign (by decide) rfl rfl
  | opening | closing => exact .sign (by decide) rfl rfl

/-- What tokens out of a text have to be, said of each of them and of neighbours. -/
theorem lexed_iff {tokens : List Token} :
    Lexed tokens ↔ (∀ token ∈ tokens, IsToken token) ∧ tokens.IsChain Apart := by
  induction tokens with
  | nil => exact ⟨fun _ => ⟨by simp, .nil⟩, fun _ => trivial⟩
  | cons token rest ih =>
      rw [List.forall_mem_cons, List.isChain_cons]
      cases token with
      | atom text =>
          simp only [Lexed, ih, isToken_atom_iff, Apart, isAtom, true_and, Bool.not_eq_true]
          tauto
      | operator | opening | closing =>
          simpa [Lexed, ih, Apart, isAtom] using fun _ _ => isToken_of_not_atom rfl

/-- Cutting an expression into tokens loses nothing but its blanks. The tokens written one after the other
are the expression without them; each token is a sign or a run of other characters, and no two runs are
neighbours; and there is only one list of tokens of which this is true. So blanks can be put in and taken
out anywhere, texts that differ in more have other tokens, and a sign stands between the tokens of what is
before it and of what is after it. The tokens are those that are read from left to right. -/
theorem ofText_lossless :
    (∀ text, spelling (ofText text) = text.filter (!Text.isBlank ·)) ∧
    (∀ text, (∀ token ∈ ofText text, IsToken token) ∧ (ofText text).IsChain Apart) ∧
    (∀ text tokens, (∀ token ∈ tokens, IsToken token) → tokens.IsChain Apart →
      spelling tokens = text.filter (!Text.isBlank ·) → ofText text = tokens) ∧
    (∀ left blanks right, (∀ c ∈ blanks, Text.isBlank c = true) →
      ofText (left ++ blanks ++ right) = ofText (left ++ right)) ∧
    (∀ one other, ofText one = ofText other ↔
      one.filter (!Text.isBlank ·) = other.filter (!Text.isBlank ·)) ∧
    (∀ left sign right, sign ∈ signs → ∃ token, token.text = [sign] ∧ ofText [sign] = [token] ∧
      ofText (left ++ sign :: right) = ofText left ++ token :: ofText right) ∧
    ∀ text, (text.foldl Lexer.read {}).flushed = ofText text := by
  refine ⟨spelling_ofText, fun text => lexed_iff.1 (lexed_ofText text), ?_, ?_,
    fun one other => ofText_eq_iff, ?_, ?_⟩
  · intro text tokens each apart spelled
    exact ofText_of_spelling (lexed_iff.2 ⟨each, apart⟩) spelled.symm
  · intro left blanks right blank
    have passed : blanks.filter (!Text.isBlank ·) = [] := by simpa using blank
    rw [ofText_eq_iff, List.filter_append, List.filter_append, passed, List.append_nil,
      List.filter_append]
  · intro left sign right isSign
    obtain ⟨token, reads, single⟩ := exists_of_mem_signs isSign
    exact ⟨token, single, ofText_sign reads [] [], ofText_sign reads left right⟩
  · intro text
    rw [flushed_read]
    rfl

/-- A blank inside an atom is passed over, and the sign after it cuts the expression. -/
theorem ofText_lossless_spread :
    ofText "la\tmp *!b".toList = [.atom "lamp".toList, .operator .and, .operator .not, .atom ['b']] ∧
    ofText ("la".toList ++ ['\t'] ++ "mp *!b".toList) = ofText ("la".toList ++ "mp *!b".toList) ∧
    ∃ token, token.text = ['*'] ∧
      ofText ("la\tmp ".toList ++ '*' :: "!b".toList) =
        ofText "la\tmp ".toList ++ token :: ofText "!b".toList := by
  obtain ⟨_, _, unique, blanks, _, cuts, _⟩ := ofText_lossless
  have lexed : Lexed [.atom "lamp".toList, .operator .and, .operator .not, .atom ['b']] :=
    ⟨by decide, by simp [isAtom], by decide, by simp, trivial⟩
  obtain ⟨each, apart⟩ := lexed_iff.1 lexed
  obtain ⟨token, single, _, cut⟩ := cuts "la\tmp ".toList '*' "!b".toList (by decide)
  have blank : ∀ c ∈ ['\t'], Text.isBlank c = true := List.forall_mem_singleton.2 rfl
  exact ⟨unique _ _ each apart rfl, blanks _ _ _ blank, token, single, cut⟩

end Narrative.Token
