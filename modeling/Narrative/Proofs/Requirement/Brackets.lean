/-
Module: Narrative.Proofs.Requirement.Brackets
Purpose: Which requirements are refused for their brackets. The brackets that are open on the stack are
  those that the text has opened and not closed, so a bracket is found missing just where the counts of a
  beginning of the text, or of all of it, say so.
Main exports: missingBracket?, Overcloses, missingBracket?_eq_opening_iff,
  missingBracket?_eq_none_iff, Step.arrange_eq_error_iff, parse_eq_unbalanced_iff, unbalanced_iff
-/
import Narrative.Proofs.Outcome
import Narrative.Proofs.Requirement.Placement

namespace Narrative

/-! ### Brackets in a text -/

/-- The bracket that a text lacks, where as many brackets are open before it as the depth says. -/
def missingBracket? : Nat → List Char → Option MissingBracket
  | depth, [] => if depth = 0 then none else some .closing
  | depth, c :: rest =>
    if c = '(' then missingBracket? (depth + 1) rest
    else if c = ')' then
      match depth with
      | 0 => some .opening
      | depth + 1 => missingBracket? depth rest
    else missingBracket? depth rest

theorem missingBracket?_other {c : Char} (opens : c ≠ '(') (closes : c ≠ ')') (depth : Nat)
    (rest : List Char) : missingBracket? depth (c :: rest) = missingBracket? depth rest := by
  rw [missingBracket?.eq_def]
  simp only [if_neg opens, if_neg closes]

/-- Blanks are no brackets. -/
theorem missingBracket?_filter (depth : Nat) (text : List Char) :
    missingBracket? depth (text.filter (!Text.isBlank ·)) = missingBracket? depth text := by
  induction text generalizing depth with
  | nil => rfl
  | cons c rest ih =>
      cases blank : Text.isBlank c with
      | true =>
          have opens : c ≠ '(' := by
            rintro rfl
            cases blank
          have closes : c ≠ ')' := by
            rintro rfl
            cases blank
          rw [List.filter_cons_of_neg (by simp [blank]), ih, missingBracket?_other opens closes]
      | false =>
          rw [List.filter_cons_of_pos (by simp [blank])]
          unfold missingBracket?
          simp only [ih]

/-- Plain characters are no brackets. -/
theorem missingBracket?_plain {text : List Char} (plain : ∀ c ∈ text, PlainChar c) (depth : Nat)
    (rest : List Char) : missingBracket? depth (text ++ rest) = missingBracket? depth rest := by
  induction text with
  | nil => rfl
  | cons c text ih =>
      obtain ⟨first, others⟩ := List.forall_mem_cons.1 plain
      have opens : c ≠ '(' := by
        rintro rfl
        cases first.2
      have closes : c ≠ ')' := by
        rintro rfl
        cases first.2
      rw [List.cons_append, missingBracket?_other opens closes, ih others]

/-! ### Counting brackets -/

/-- Some beginning of the text closes more brackets than it opens, where as many are open before the text
as the depth says. -/
def Overcloses (depth : Nat) (text : List Char) : Prop :=
  ∃ n ≤ text.length, (text.take n).count '(' + depth < (text.take n).count ')'

instance (depth : Nat) (text : List Char) : Decidable (Overcloses depth text) :=
  inferInstanceAs (Decidable (∃ n ≤ text.length, _))

theorem not_overcloses_nil (depth : Nat) : ¬ Overcloses depth [] := by
  rintro ⟨n, _, more⟩
  simp at more

/-- After a character as many brackets are open as the counts of the character say. -/
theorem overcloses_cons_iff {depth : Nat} (inner : Nat) {c : Char} {text : List Char}
    (step : [c].count '(' + depth = [c].count ')' + inner) :
    Overcloses depth (c :: text) ↔ Overcloses inner text := by
  simp only [List.count_cons, List.count_nil, Nat.zero_add] at step
  constructor
  · rintro ⟨n, bound, more⟩
    cases n with
    | zero => simp at more
    | succ n =>
        refine ⟨n, Nat.le_of_succ_le_succ bound, ?_⟩
        simp only [List.take_succ_cons, List.count_cons] at more
        omega
  · rintro ⟨n, bound, more⟩
    refine ⟨n + 1, Nat.succ_le_succ bound, ?_⟩
    simp only [List.take_succ_cons, List.count_cons]
    omega

/-- An opening bracket is missing just where a beginning of the text closes too much. -/
theorem missingBracket?_eq_opening_iff {depth : Nat} {text : List Char} :
    missingBracket? depth text = some .opening ↔ Overcloses depth text := by
  fun_induction missingBracket? depth text with
  | case1 => simp [not_overcloses_nil]
  | case2 => simp [not_overcloses_nil]
  | case3 depth rest ih => rw [ih, overcloses_cons_iff (depth + 1) (by simp; omega)]
  | case4 rest =>
      have early : Overcloses 0 (')' :: rest) := ⟨1, by simp, by simp⟩
      simp [early]
  | case5 rest depth _ ih => rw [ih, overcloses_cons_iff depth (by simp; omega)]
  | case6 depth c rest opens closes ih => rw [ih, overcloses_cons_iff depth (by simp [opens, closes])]

/-- No bracket is missing just where no beginning of the text closes too much and all that is opened is
closed. -/
theorem missingBracket?_eq_none_iff {depth : Nat} {text : List Char} :
    missingBracket? depth text = none ↔
      ¬ Overcloses depth text ∧ text.count '(' + depth = text.count ')' := by
  fun_induction missingBracket? depth text with
  | case1 => simp [not_overcloses_nil]
  | case2 depth opened => simpa [not_overcloses_nil] using opened
  | case3 depth rest ih =>
      rw [ih, overcloses_cons_iff (depth + 1) (by simp; omega)]
      refine and_congr_right fun _ => ?_
      simp only [List.count_cons_self, List.count_cons_of_ne (by decide : '(' ≠ ')')]
      omega
  | case4 rest =>
      have early : Overcloses 0 (')' :: rest) := ⟨1, by simp, by simp⟩
      simp [early]
  | case5 rest depth _ ih =>
      rw [ih, overcloses_cons_iff depth (by simp; omega)]
      refine and_congr_right fun _ => ?_
      simp only [List.count_cons_self, List.count_cons_of_ne (by decide : ')' ≠ '(')]
      omega
  | case6 depth c rest opens closes ih =>
      rw [ih, overcloses_cons_iff depth (by simp [opens, closes])]
      simp only [List.count_cons_of_ne opens, List.count_cons_of_ne closes]

/-! ### Brackets on the stack -/

namespace Step

theorem openings_operator (op : Operator) (stack : List Waiting) :
    openings (.operator op :: stack) = openings stack := by
  simp [openings]

theorem close?_eq_none_iff {stack : List Waiting} : close? stack = none ↔ openings stack = 0 := by
  induction stack with
  | nil => simp [close?, openings]
  | cons top rest ih =>
      cases top with
      | opening => simp [close?, openings_opening]
      | operator op =>
          rw [openings_operator, ← ih, close?]
          cases close? rest <;> simp

theorem finish?_eq_none_iff {stack : List Waiting} : finish? stack = none ↔ openings stack ≠ 0 := by
  induction stack with
  | nil => simp [finish?, openings]
  | cons top rest ih =>
      cases top with
      | opening => simp [finish?, openings_opening]
      | operator op => simp [finish?, openings_operator, ← ih]

/-- A bracket is found missing just where the text of the tokens lacks one, with as many brackets open
before it as are on the stack. -/
theorem arrange_eq_error_iff {stack : List Waiting} {tokens : List Token}
    (lexed : Token.Lexed tokens) {missing : MissingBracket} :
    arrange stack tokens = .error missing ↔
      missingBracket? (openings stack) (Token.spelling tokens) = some missing := by
  induction tokens generalizing stack with
  | nil =>
      cases finished : finish? stack with
      | none =>
          have opened := finish?_eq_none_iff.1 finished
          simp [arrange, finished, Token.spelling, missingBracket?, opened]
      | some steps =>
          have closed := openings_finish? finished
          simp [arrange, finished, Token.spelling, missingBracket?, closed]
  | cons token rest ih =>
      rw [Token.spelling_cons]
      cases token with
      | atom text =>
          obtain ⟨isText, _, others⟩ := lexed
          rw [arrange_atom, map_eq_error, ih others, Token.text, missingBracket?_plain isText.plain]
      | operator op =>
          rw [arrange_operator rfl, map_eq_error, ih lexed, openings_operator, openings_release]
          cases op <;> rfl
      | opening =>
          rw [arrange, ih lexed, openings_opening]
          rfl
      | closing =>
          cases closed : close? stack with
          | none =>
              rw [arrange, closed, close?_eq_none_iff.1 closed]
              simp [Token.text, missingBracket?]
          | some found =>
              rw [arrange_closing closed, map_eq_error, ih lexed, openings_close? closed]
              rfl

end Step

/-- A text is refused for its brackets just where it lacks one, whatever else is wrong with it. -/
theorem parse_eq_unbalanced_iff {text : String} {missing : MissingBracket} :
    Requirement.parse text = .error (.unbalanced text missing) ↔
      missingBracket? 0 text.toList = some missing := by
  have arranged : Step.ofTokens (Token.ofText text.toList) = .error missing ↔
      missingBracket? 0 text.toList = some missing := by
    rw [Step.ofTokens, Step.arrange_eq_error_iff (Token.lexed_ofText _), Token.spelling_ofText,
      missingBracket?_filter]
    rfl
  rw [← arranged]
  constructor
  · intro failed
    obtain ⟨other, unmatched, same⟩ | ⟨reason, same⟩ | ⟨atom, _, unread⟩ := error_of_parse failed
    · cases same
      exact unmatched
    · cases same
    · cases Reference.parse_error unread
  · intro unmatched
    rw [Requirement.parse, unmatched]

/-- A requirement is refused for its brackets just if they are unbalanced: some beginning of the text
closes more of them than it opens, or the totals differ. It lacks an opening bracket in the first case
and otherwise a closing one, whatever else is wrong with it. Every other refusal is for an operand or an
operator too few, or for an atom that is no reference. -/
theorem unbalanced_iff (text : String) :
    ((∃ missing, Requirement.parse text = .error (.unbalanced text missing)) ↔
      Overcloses 0 text.toList ∨ text.toList.count '(' ≠ text.toList.count ')') ∧
    ((∃ missing, Requirement.parse text = .error (.unbalanced text missing) ∧
        missing.text = "missing opening bracket") ↔ Overcloses 0 text.toList) ∧
    ∀ error, Requirement.parse text = .error error →
      (∃ missing, error = .unbalanced text missing) ∨
        (∃ reason, error = .invalidExpression text reason) ∨
        ∃ atom, .atom atom ∈ Token.ofText text.toList ∧
          error = .malformedReference (String.ofList atom) ∧
          ∀ reference, Reference.parse (String.ofList atom) ≠ .ok reference := by
  refine ⟨?_, ?_, ?_⟩
  · have lacks : (∃ missing, missingBracket? 0 text.toList = some missing) ↔
        ¬ missingBracket? 0 text.toList = none := by
      rw [← Option.isSome_iff_exists, Option.isSome_iff_ne_none]
    simp only [parse_eq_unbalanced_iff, lacks, missingBracket?_eq_none_iff, Nat.add_zero,
      Classical.not_and_iff_not_or_not, Classical.not_not, ne_eq]
  · rw [← missingBracket?_eq_opening_iff, ← parse_eq_unbalanced_iff]
    constructor
    · rintro ⟨missing, refused, named⟩
      cases missing with
      | opening => exact refused
      | closing => exact absurd named (by decide)
    · intro refused
      exact ⟨.opening, refused, rfl⟩
  · intro error failed
    obtain ⟨missing, _, same⟩ | invalid | ⟨atom, mem, unread⟩ := error_of_parse failed
    · exact .inl ⟨missing, same⟩
    · exact .inr (.inl invalid)
    · refine .inr (.inr ⟨atom, mem, Reference.parse_error unread, ?_⟩)
      intro reference read
      rw [unread] at read
      cases read

/-- Brackets count before all else: a missing operand is not looked at where they are unbalanced. Where
they are balanced, an atom with two points is no reference. -/
theorem unbalanced_iff_misplaced :
    Overcloses 0 "!)a(".toList ∧ "!)a(".toList.count '(' = "!)a(".toList.count ')' ∧
    (∃ missing, Requirement.parse "!)a(" = .error (.unbalanced "!)a(" missing) ∧
      missing.text = "missing opening bracket") ∧
    (∃ missing, Requirement.parse "(!" = .error (.unbalanced "(!" missing)) ∧
    Requirement.parse "(a.b.c)" = .error (.malformedReference "a.b.c") ∧
    ∃ atom, .atom atom ∈ Token.ofText "(a.b.c)".toList ∧
      ∀ reference, Reference.parse (String.ofList atom) ≠ .ok reference := by
  have early : Overcloses 0 "!)a(".toList := by decide
  have malformed : Requirement.parse "(a.b.c)" = .error (.malformedReference "a.b.c") := rfl
  refine ⟨early, rfl, (unbalanced_iff "!)a(").2.1.2 early, ?_, malformed, ?_⟩
  · exact (unbalanced_iff "(!").1.2 (.inr (by decide))
  · obtain ⟨_, other⟩ | ⟨_, other⟩ | ⟨atom, mem, _, unread⟩ := (unbalanced_iff "(a.b.c)").2.2 _ malformed
    · cases other
    · cases other
    · exact ⟨atom, mem, unread⟩

end Narrative
