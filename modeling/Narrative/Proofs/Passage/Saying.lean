/-
Module: Narrative.Proofs.Passage.Saying
Purpose: What a passage means by itself: whether it may be told, and what it says then, with the number of
  its earlier tellings in front.
Main exports: Formula.Holds, answering, Passage.MayTell, Passage.saying, Passage.Unsayable,
  Passage.isOpen_iff, Passage.eq_saying_of_lead, Tellings.Bring.parts_eq
-/
import Mathlib.Algebra.Group.Nat.Defs
import Narrative.Proofs.Passage.Walk

namespace Narrative

/-! ### Whether a passage may be told -/

/-- The formula holds if its facts have these answers. -/
def Formula.Holds (answers : Reference → Bool) : Formula → Prop
  | .fact reference => answers reference = true
  | .not operand => ¬ operand.Holds answers
  | .and left right => left.Holds answers ∧ right.Holds answers
  | .or left right => left.Holds answers ∨ right.Holds answers

/-- A predicate that answers for all references. -/
def answering (answers : Reference → Bool) : Reference → Except EvaluationError Bool :=
  fun reference => .ok (answers reference)

theorem Formula.evaluate_answering (answers : Reference → Bool) (formula : Formula) :
    ∃ value, formula.evaluate (answering answers) = .ok value ∧
      (value = true ↔ formula.Holds answers) := by
  induction formula with
  | fact reference => exact ⟨_, rfl, Iff.rfl⟩
  | not operand ih =>
      obtain ⟨value, evaluated, holds⟩ := ih
      refine ⟨!value, by rw [evaluate, evaluated]; rfl, ?_⟩
      rw [Holds, ← holds, Bool.not_eq_true', Bool.not_eq_true]
  | and left right ihLeft ihRight =>
      obtain ⟨first, evaluated, holds⟩ := ihLeft
      obtain ⟨second, also, alsoHolds⟩ := ihRight
      refine ⟨first && second, by rw [evaluate, evaluated, also]; rfl, ?_⟩
      rw [Holds, ← holds, ← alsoHolds, Bool.and_eq_true]
  | or left right ihLeft ihRight =>
      obtain ⟨first, evaluated, holds⟩ := ihLeft
      obtain ⟨second, also, alsoHolds⟩ := ihRight
      refine ⟨first || second, by rw [evaluate, evaluated, also]; rfl, ?_⟩
      rw [Holds, ← holds, ← alsoHolds, Bool.or_eq_true]

namespace Passage

/-- The passage may be told: it has not been told as often as it may be, and its requirement holds. A limit
of zero or less is none. -/
structure MayTell (answers : Reference → Bool) (passage : Passage) : Prop where
  fresh : 0 < passage.limit.value → passage.count.value < passage.limit.value
  holds : ∀ requirement ∈ passage.requirement?, requirement.formula.Holds answers

theorem exhausted_iff {passage : Passage} : passage.exhausted = true ↔
    ¬ (0 < passage.limit.value → passage.count.value < passage.limit.value) := by
  simp [exhausted]

theorem isOpen_iff {answers : Reference → Bool} {passage : Passage} :
    passage.isOpen (answering answers) = true ↔ passage.MayTell answers := by
  unfold isOpen isAvailable
  by_cases told : passage.exhausted = true
  · rw [if_pos told]
    exact ⟨nofun, fun may => absurd may.fresh (exhausted_iff.1 told)⟩
  · rw [if_neg told]
    have fresh := Classical.not_not.1 (mt exhausted_iff.2 told)
    cases required : passage.requirement? with
    | none => exact ⟨fun _ => ⟨fresh, by simp [required]⟩, fun _ => rfl⟩
    | some requirement =>
        obtain ⟨value, evaluated, holds⟩ := requirement.formula.evaluate_answering answers
        dsimp only
        rw [Requirement.evaluate, evaluated]
        refine ⟨fun may => ⟨fresh, ?_⟩, fun may => holds.2 (may.holds requirement required)⟩
        rw [required]
        rintro _ ⟨⟩
        exact holds.1 may

theorem isAvailable_answering (answers : Reference → Bool) (passage : Passage)
    (error : EvaluationError) : passage.isAvailable (answering answers) ≠ .error error := by
  intro doubtful
  obtain ⟨_, _, _, _, asked⟩ := Passage.isAvailable_error doubtful
  cases asked

/-! ### What a passage says -/

/-- What is said when the passage is told: its text, if it has one, with the number of earlier tellings in
front. -/
def saying (passage : Passage) : String :=
  match passage.description? with
  | none => ""
  | some description => "[p]\x7b" ++ passage.count.text ++ "\x7d" ++ description

/-- The passage was told so often that the number has too many digits to stand in front of its text. -/
def Unsayable (passage : Passage) : Prop :=
  passage.description?.isSome = true ∧
    ∃ value, passage.count = .number value ∧ 10 ^ 4300 ≤ value.natAbs

theorem eq_saying_of_lead {passage : Passage} {text : String} (written : passage.lead = .ok text) :
    text = passage.saying := by
  unfold lead at written
  unfold saying
  cases described : passage.description? with
  | none =>
      rw [described] at written
      cases written
      rfl
  | some description =>
      rw [described] at written
      dsimp only at written ⊢
      split at written
      next count spelled =>
        cases written
        cases counted : passage.count with
        | truth value =>
            rw [counted] at spelled
            cases spelled
            rfl
        | number value =>
            rw [counted, Tally.written?, Numeral.writeWhole?] at spelled
            split at spelled
            · cases spelled
              rfl
            · cases spelled
      next => cases written

theorem tenTo_eq (exponent : Nat) : Numeral.tenTo exponent = 10 ^ exponent := rfl

theorem unsayable_of_overtold {passage : Passage} (overtold : passage.Overtold) : passage.Unsayable := by
  obtain ⟨described, unwritten⟩ := overtold
  refine ⟨described, ?_⟩
  cases counted : passage.count with
  | truth value => simp [counted, Tally.written?] at unwritten
  | number value =>
      refine ⟨value, rfl, ?_⟩
      rw [counted, Tally.written?, Numeral.writeWhole?] at unwritten
      split at unwritten
      next => cases unwritten
      next long =>
          rw [tenTo_eq, show Numeral.maxDigits = 4300 from rfl] at long
          exact Nat.not_lt.1 long

end Passage

/-- What is brought is what the passages say, one after the other. -/
theorem Tellings.Bring.parts_eq {tellings : Tellings} {harvest : Harvest} (brings : tellings.Bring harvest) :
    harvest.parts = tellings.map (·.2.saying) := by
  apply List.ext_getElem?
  intro index
  have same := congrArg (·[index]?) brings.parts
  simp only [List.getElem?_map] at same ⊢
  cases part : harvest.parts[index]? with
  | none =>
      rw [part] at same
      rw [Option.map_eq_none_iff.1 same, Option.map_none]
  | some text =>
      rw [part] at same
      obtain ⟨telling, listed, written⟩ := Option.map_eq_some_iff.1 same
      rw [listed, Option.map_some, Passage.eq_saying_of_lead written]

end Narrative
