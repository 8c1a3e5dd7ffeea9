/-
Module: Narrative.Proofs.Requirement.Grammar
Purpose: The grammar of requirements: which tokens are a sum, a product or a factor, and of which
  formula. Every formula is written with the fewest brackets that the grammar allows.
Main exports: Rank, Reads, Reads.lexed, Reads.readable, Formula.tokens, reads_tokens,
  brackets_tokens_le
-/
import Narrative.Proofs.Reference
import Narrative.Proofs.Requirement.Tokens
import Narrative.Requirement.Formula

namespace Narrative

/-- The three kinds of phrases, from the loosest to the tightest. -/
inductive Rank where
  | sum
  | product
  | factor
deriving Repr, DecidableEq

/-- Tokens between brackets. -/
def bracketed (tokens : List Token) : List Token := .opening :: (tokens ++ [.closing])

/-- The derivations of the grammar: tokens that are a phrase of a rank, with the tree of the phrase.
Conjunction and disjunction group to the left, and brackets leave no node. -/
inductive Reads : Rank → List Token → Formula → Prop where
  | fact {text : List Char} {reference : Reference} (isText : AtomText text)
      (read : Reference.parse (String.ofList text) = .ok reference) :
      Reads .factor [.atom text] (.fact reference)
  | not {tokens : List Token} {operand : Formula} (inner : Reads .factor tokens operand) :
      Reads .factor (.operator .not :: tokens) (.not operand)
  | group {tokens : List Token} {formula : Formula} (inner : Reads .sum tokens formula) :
      Reads .factor (bracketed tokens) formula
  | ofFactor {tokens : List Token} {formula : Formula} (inner : Reads .factor tokens formula) :
      Reads .product tokens formula
  | and {first second : List Token} {left right : Formula} (before : Reads .product first left)
      (after : Reads .factor second right) :
      Reads .product (first ++ .operator .and :: second) (.and left right)
  | ofProduct {tokens : List Token} {formula : Formula} (inner : Reads .product tokens formula) :
      Reads .sum tokens formula
  | or {first second : List Token} {left right : Formula} (before : Reads .sum first left)
      (after : Reads .product second right) :
      Reads .sum (first ++ .operator .or :: second) (.or left right)

/-- Every reference of the formula can be read from its own text. -/
def Formula.Readable (formula : Formula) : Prop :=
  ∀ reference ∈ formula.references, Reference.parse reference.text = .ok reference

namespace Formula

@[simp] theorem readable_fact (reference : Reference) :
    (fact reference).Readable ↔ Reference.parse reference.text = .ok reference := by
  simp [Readable, references]

@[simp] theorem readable_and (left right : Formula) :
    (and left right).Readable ↔ left.Readable ∧ right.Readable := by
  simp [Readable, references, or_imp, forall_and]

@[simp] theorem readable_or (left right : Formula) :
    (or left right).Readable ↔ left.Readable ∧ right.Readable := by
  simp [Readable, references, or_imp, forall_and]

end Formula

namespace Reads

/-- The tokens of a derivation are the tokens of a text. -/
theorem lexed {rank : Rank} {tokens : List Token} {formula : Formula}
    (reads : Reads rank tokens formula) : Token.Lexed tokens := by
  induction reads with
  | fact isText _ => exact ⟨isText, by simp, trivial⟩
  | not _ ih => exact ih
  | group _ ih => exact Token.Lexed.append ih trivial (by simp [Token.isAtom])
  | ofFactor _ ih => exact ih
  | and _ _ first second => exact first.append second (by simp [Token.isAtom])
  | ofProduct _ ih => exact ih
  | or _ _ first second => exact first.append second (by simp [Token.isAtom])

/-- The tree of a derivation is readable. -/
theorem readable {rank : Rank} {tokens : List Token} {formula : Formula}
    (reads : Reads rank tokens formula) : formula.Readable := by
  induction reads with
  | fact _ read => exact (Formula.readable_fact _).2 (Reference.parse_text read)
  | not _ ih => exact ih
  | group _ ih => exact ih
  | ofFactor _ ih => exact ih
  | ofProduct _ ih => exact ih
  | and _ _ first second => exact (Formula.readable_and _ _).2 ⟨first, second⟩
  | or _ _ first second => exact (Formula.readable_or _ _).2 ⟨first, second⟩

/-- What is of a tighter rank is of every looser one. -/
theorem sum_of_factor {tokens : List Token} {formula : Formula}
    (reads : Reads .factor tokens formula) : Reads .sum tokens formula :=
  .ofProduct (.ofFactor reads)

end Reads

/-! ### The fewest brackets

A phrase gets brackets only where the grammar asks for a tighter rank than its own. No derivation of
the same tree has fewer of them. -/

/-- A reference that an atom can name. -/
def Reference.Writable (reference : Reference) : Prop :=
  AtomText reference.text.toList ∧ Reference.parse reference.text = .ok reference

/-- The tokens of a formula as a phrase of the given rank, with brackets only where they are
needed. -/
def Formula.tokens : Rank → Formula → List Token
  | _, .fact reference => [.atom reference.text.toList]
  | _, .not operand => .operator .not :: operand.tokens .factor
  | rank, .and left right =>
    let phrase := left.tokens .product ++ .operator .and :: right.tokens .factor
    if rank = .factor then bracketed phrase else phrase
  | rank, .or left right =>
    let phrase := left.tokens .sum ++ .operator .or :: right.tokens .product
    if rank = .sum then phrase else bracketed phrase

/-- A factor is a phrase of every rank. -/
theorem Reads.ofRank {tokens : List Token} {formula : Formula} (rank : Rank)
    (reads : Reads .factor tokens formula) : Reads rank tokens formula := by
  cases rank with
  | factor => exact reads
  | product => exact .ofFactor reads
  | sum => exact reads.sum_of_factor

/-- The tokens of a formula are a derivation of it. -/
theorem reads_tokens {formula : Formula} (rank : Rank)
    (writable : ∀ reference ∈ formula.references, reference.Writable) :
    Reads rank (formula.tokens rank) formula := by
  induction formula generalizing rank with
  | fact reference =>
      obtain ⟨isText, read⟩ := writable reference List.mem_cons_self
      exact .ofRank rank (.fact isText (by rwa [String.ofList_toList]))
  | not operand ih => exact .ofRank rank (.not (ih .factor writable))
  | and left right first second =>
      have phrase : Reads .product _ (.and left right) :=
        .and (first .product fun reference mem => writable reference (List.mem_append_left _ mem))
          (second .factor fun reference mem => writable reference (List.mem_append_right _ mem))
      cases rank with
      | factor => exact .group (.ofProduct phrase)
      | product => exact phrase
      | sum => exact .ofProduct phrase
  | or left right first second =>
      have phrase : Reads .sum _ (.or left right) :=
        .or (first .sum fun reference mem => writable reference (List.mem_append_left _ mem))
          (second .product fun reference mem => writable reference (List.mem_append_right _ mem))
      cases rank with
      | factor => exact .group phrase
      | product => exact .ofFactor (.group phrase)
      | sum => exact phrase

/-- The number of opening brackets among tokens. -/
def brackets (tokens : List Token) : Nat := tokens.count .opening

theorem brackets_bracketed (tokens : List Token) :
    brackets (bracketed tokens) = brackets tokens + 1 := by
  simp [brackets, bracketed]

theorem brackets_infix (first second : List Token) (op : Operator) :
    brackets (first ++ .operator op :: second) = brackets first + brackets second := by
  simp [brackets]

/-- A looser rank needs no more brackets than a tighter one, and at most one fewer. -/
theorem brackets_tokens_looser (formula : Formula) :
    brackets (formula.tokens .sum) ≤ brackets (formula.tokens .product) ∧
      brackets (formula.tokens .product) ≤ brackets (formula.tokens .factor) ∧
      brackets (formula.tokens .factor) ≤ brackets (formula.tokens .sum) + 1 := by
  cases formula with
  | fact reference => exact ⟨Nat.le_refl _, Nat.le_refl _, Nat.le_succ _⟩
  | not operand => exact ⟨Nat.le_refl _, Nat.le_refl _, Nat.le_succ _⟩
  | and left right | or left right => simp [Formula.tokens, brackets_bracketed]

/-- No derivation of a formula has fewer brackets than its tokens. -/
theorem brackets_tokens_le {rank : Rank} {tokens : List Token} {formula : Formula}
    (reads : Reads rank tokens formula) :
    brackets (formula.tokens rank) ≤ brackets tokens := by
  induction reads with
  | fact => exact Nat.zero_le _
  | @not tokens operand _ ih =>
      simpa [Formula.tokens, brackets] using ih
  | @group tokens formula _ ih =>
      have tighter := (brackets_tokens_looser formula).2.2
      rw [brackets_bracketed]
      omega
  | @ofFactor _ formula _ ih => exact Nat.le_trans (brackets_tokens_looser formula).2.1 ih
  | @ofProduct _ formula _ ih => exact Nat.le_trans (brackets_tokens_looser formula).1 ih
  | and _ _ first second =>
      simp only [Formula.tokens, reduceCtorEq, if_false, brackets_infix]
      omega
  | or _ _ first second =>
      simp only [Formula.tokens, if_true, brackets_infix]
      omega

end Narrative
