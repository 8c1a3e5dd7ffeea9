/-
Module: Narrative.Proofs.Markup.Escape
Purpose: Text in which every opening bracket is doubled. It expands to the text itself, whatever else the
  text holds, and changes nothing; behind a directive for the speed it is shown at that speed.
Main exports: doubled, spellOut_doubled, expand_doubled, RenderState.atSpeed, expand_instant_doubled
-/
import Narrative.Proofs.Markup.Template

namespace Narrative.Markup

/-- The text with its opening brackets doubled. -/
def doubled (text : List Char) : List Char := text.flatMap fun c => if c = '[' then ['[', '['] else [c]

@[simp] theorem doubled_append (first second : List Char) :
    doubled (first ++ second) = doubled first ++ doubled second :=
  List.flatMap_append

theorem doubled_opening (text : List Char) : doubled ('[' :: text) = '[' :: '[' :: doubled text := rfl

/-- Text without an opening bracket is written as it is. -/
theorem doubled_of_not_mem {text : List Char} (unmarked : '[' ∉ text) : doubled text = text := by
  induction text with
  | nil => rfl
  | cons c rest ih =>
      obtain ⟨other, unmarked⟩ := not_or.1 (mt List.mem_cons.2 unmarked)
      rw [doubled, List.flatMap_cons, if_neg (Ne.symm other), ← doubled, ih unmarked]
      rfl

/-- The first character is the same, doubled or not. -/
theorem head?_doubled (text : List Char) : (doubled text).head? = text.head? := by
  cases text with
  | nil => rfl
  | cons c rest =>
      rw [doubled, List.flatMap_cons]
      split
      next opening => rw [opening]; rfl
      next => rfl

/-- Doubling the text between separators that have no bracket. -/
theorem doubled_intercalate {separator : List Char} (unmarked : '[' ∉ separator)
    (parts : List (List Char)) :
    doubled (separator.intercalate parts) = separator.intercalate (parts.map doubled) := by
  induction parts with
  | nil => rfl
  | cons part rest ih =>
      by_cases last : rest = []
      · rw [last, List.intercalate_singleton, List.map_singleton, List.intercalate_singleton]
      · rw [List.intercalate_cons_of_ne_nil last, List.map_cons,
          List.intercalate_cons_of_ne_nil (mt List.map_eq_nil_iff.1 last), doubled_append,
          doubled_append, doubled_of_not_mem unmarked, ih]

/-! ### What is shown of it -/

/-- Doubled text is shown as it was, and then what follows it is expanded. -/
theorem spellOut_doubled (text rest : List Char) (state : RenderState) :
    spellOut (doubled text ++ rest) state =
      (spellOut rest state).after (text.map fun c => (.text [c], state.style)) := by
  induction text with
  | nil => rfl
  | cons c text ih =>
      rw [doubled, List.flatMap_cons, List.append_assoc, ← doubled]
      split
      next opening =>
        rw [opening, List.cons_append, List.cons_append, List.nil_append, spellOut_escape,
          Rendering.ofCharacter_andThen, ih, Rendering.after_after]
        rfl
      next plain =>
        rw [List.cons_append, List.nil_append, spellOut_cons plain, Rendering.ofCharacter_andThen, ih,
          Rendering.after_after]
        rfl

/-- Spelling the rendering out does not change what the text expands to. -/
theorem expand_eq_outcome (text : List Char) (state : RenderState) :
    expand text state = (spellOut text state).outcome :=
  (Rendering.outcome_spelled _).symm

/-- Doubled text expands to the text, and the state stays as it is. -/
theorem expand_doubled (text : List Char) (state : RenderState) :
    expand (doubled text) state = .ok (text, state) := by
  have shown := spellOut_doubled text [] state
  rw [List.append_nil, spellOut_nil] at shown
  rw [expand_eq_outcome, shown]
  simp [Rendering.outcome, Rendering.after, Rendering.blank, Rendering.text, Fragment.characters,
    List.flatMap_map]

/-- The state with another speed. -/
def RenderState.atSpeed (state : RenderState) (speed : Speed) : RenderState :=
  { state with style := { state.style with speed } }

/-- The directive for instant speed sets the speed for the text after it. -/
theorem expand_instant_doubled {text : List Char} (ends : text.head? ≠ some '{') (state : RenderState) :
    expand ('[' :: 'i' :: ']' :: doubled text) state = .ok (text, state.atSpeed .instant) := by
  have follows : (doubled text).head? ≠ some '{' := by rwa [head?_doubled]
  have named : ∀ c ∈ ['i'], isBracket c = false := List.forall_mem_singleton.2 rfl
  have carried : spellOut (Directive.written ⟨['i'], []⟩ ++ doubled text) state =
      (Directive.run ⟨['i'], []⟩ (doubled text) state).spelled :=
    spellOut_directive named (List.forall_mem_nil _) follows state
  have run : (Directive.run ⟨['i'], []⟩ (doubled text) state).spelled =
      spellOut (doubled text) (state.atSpeed .instant) := rfl
  have written : Directive.written ⟨['i'], []⟩ ++ doubled text = '[' :: 'i' :: ']' :: doubled text := rfl
  rw [expand_eq_outcome, ← written, carried, run, ← expand_eq_outcome, expand_doubled]

end Narrative.Markup
