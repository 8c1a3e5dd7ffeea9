/-
Module: Narrative.Proofs.Passage.Lead
Purpose: What the number in front of a passage does to its text. It sets the iteration, and the text is
  rendered as its author wrote it, but for the arguments that it begins with: those are read as
  further arguments of the directive with the number.
Main exports: Tally.spoken, RenderState.counting, Passage.exists_lead_iff, lead_renders
-/
import Narrative.Passage
import Narrative.Proofs.Markup.Balance
import Narrative.Proofs.Markup.Template
import Narrative.Proofs.Numeral.Whole

namespace Narrative

open Markup

/-! ### The number in front -/

/-- The iteration that a tally sets in front of a text: a truth value is no number, and sets zero. -/
def Tally.spoken : Tally → Int
  | .number value => value
  | .truth _ => 0

/-- The state with another iteration. -/
def Markup.RenderState.counting (state : RenderState) (iteration : Int) : RenderState :=
  { state with style := { state.style with iteration } }

namespace Tally

/-- No brace is written for a tally. -/
theorem balanced_of_written {tally : Tally} {text : String} (written : tally.written? = some text) :
    Balanced text.toList := by
  cases tally with
  | number value =>
      apply balanced_of_unbraced
      intro c member
      rcases Numeral.isDigit_of_mem_writeWhole? written c member with isDigit | rfl
      · constructor <;> rintro rfl <;> exact absurd isDigit (by decide)
      · decide
  | truth value =>
      cases written
      cases value <;> decide

/-- A tally that is written is read back as the iteration. -/
theorem readWhole?_of_written {tally : Tally} {text : String}
    (written : tally.written? = some text) :
    (Numeral.readWhole? text.toList).getD 0 = tally.spoken := by
  cases tally with
  | number value =>
      rw [Numeral.readWhole?_of_writeWhole? written]
      rfl
  | truth value =>
      cases written
      cases value <;> decide

end Tally

/-- A balanced argument in front of a text sets the iteration, and takes the arguments that the text
begins with along. -/
theorem Markup.render_counted {number : List Char} (balanced : Balanced number) (text : List Char)
    (state : RenderState) :
    render ('[' :: ("p".toList ++ ']' :: (braced number ++ text))) state =
      render (arguments text).2 (state.counting ((Numeral.readWhole? number).getD 0)) := by
  have named : ∀ c ∈ "p".toList, isBracket c = false := by simp [isBracket]
  have found := find?_named named (braced number ++ text)
  rw [arguments_braced balanced] at found
  rw [render_of_directive found]
  rfl

namespace Passage

/-- A passage with a text can be told unless its number has too many digits. -/
theorem exists_lead_iff {passage : Passage} {description : String}
    (described : passage.description? = some description) :
    (∃ text, passage.lead = .ok text) ↔
      ∀ value, passage.count = .number value → value.natAbs < Numeral.tenTo Numeral.maxDigits := by
  unfold lead
  rw [described]
  dsimp only
  cases passage.count with
  | truth value => simp [Tally.written?]
  | number value =>
      simp only [Tally.written?, Numeral.writeWhole?, Tally.number.injEq, forall_eq']
      generalize Numeral.tenTo Numeral.maxDigits = bound
      split <;> simp_all

/-- What the number in front makes of a description, in every state: the fragments with their styles,
the pauses, the events, the state at the end and the failure are those of the description with its
iteration set. The arguments that the description begins with are lost. -/
theorem render_lead {passage : Passage} {description text : String}
    (described : passage.description? = some description) (leads : passage.lead = .ok text)
    (state : RenderState) :
    render text.toList state =
      render (arguments description.toList).2 (state.counting passage.count.spoken) := by
  unfold lead at leads
  rw [described] at leads
  dsimp only at leads
  split at leads
  next count written =>
    cases leads
    have shape : ("[p]\x7b" ++ count ++ "\x7d" ++ description).toList =
        '[' :: ("p".toList ++ ']' :: (braced count.toList ++ description.toList)) := by
      simp [braced]
    rw [shape, render_counted (Tally.balanced_of_written written),
      Tally.readWhole?_of_written written]
  next => cases leads

end Passage

/-- When a passage has a text in front of which its number can be written, and what that text renders
to: the description with the iteration set to the number, in every state and with every choice, if
the description does not begin with an argument in braces. If it does, the arguments that it begins
with are lost, since the directive with the number takes them for its own. -/
theorem lead_renders (passage : Passage) (description : String)
    (described : passage.description? = some description) :
    ((∃ text, passage.lead = .ok text) ↔
        ∀ value, passage.count = .number value →
          value.natAbs < Numeral.tenTo Numeral.maxDigits) ∧
      ∀ text, passage.lead = .ok text →
        (∀ state, render text.toList state =
            render (arguments description.toList).2 (state.counting passage.count.spoken)) ∧
          ((¬ ∃ argument rest, Balanced argument ∧
              description.toList = braced argument ++ rest) →
            ∀ value, passage.count = .number value → ∀ state,
              render text.toList state =
                render description.toList (state.counting value)) := by
  refine ⟨Passage.exists_lead_iff described, fun text leads => ?_⟩
  have renders := Passage.render_lead described leads
  refine ⟨renders, fun unbraced value counted state => ?_⟩
  have none := arguments_fst_eq_nil_iff.2 unbraced
  have kept : (arguments description.toList).2 = description.toList := by
    have parts := arguments_eq description.toList
    rw [none] at parts
    exact parts.symm
  rw [renders, kept, counted]
  rfl

/-- A door that is described for the third time, whatever the state; and beside it a description that
begins with a word in braces, which is not shown. -/
theorem lead_renders_third :
    (∀ state, render "[p]\x7b2\x7dThe [a]\x7bdoor\x7d\x7bold door\x7d.".toList state =
        render "The [a]\x7bdoor\x7d\x7bold door\x7d.".toList (state.counting 2)) ∧
      (render "[p]\x7b2\x7d\x7bx\x7d y".toList {}).text = " y".toList := by
  have third := lead_renders
    { description? := some "The [a]\x7bdoor\x7d\x7bold door\x7d.", count := .number 2 } _ rfl
  have word := lead_renders { description? := some "\x7bx\x7d y", count := .number 2 } _ rfl
  refine ⟨(third.2 _ (by decide +kernel)).2 ?_ 2 rfl, ?_⟩
  · exact arguments_fst_eq_nil_iff.1 (by decide +kernel)
  · rw [(word.2 _ (by decide +kernel)).1]
    decide +kernel

end Narrative
