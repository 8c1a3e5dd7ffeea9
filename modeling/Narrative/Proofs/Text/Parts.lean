/-
Module: Narrative.Proofs.Text.Parts
Purpose: The parts of a text between its commas. The blanks around a part do not matter, so a text
  that is joined from parts, with blanks after the commas or without, has just these parts.
Main exports: not_mem_of_mem_splitOn, mem_of_mem_trim, Text.trim_pad, Text.trim_trim,
  Text.commaParts, Text.commaParts_intercalate
-/
import Mathlib.Data.List.DropRight
import Mathlib.Data.List.TakeWhile
import Narrative.Text.Blank

namespace Narrative

/-- No part between the occurrences of a character has it. -/
theorem not_mem_of_mem_splitOn {mark : Char} {cs : List Char} :
    ∀ part ∈ cs.splitOn mark, mark ∉ part := by
  induction cs with
  | nil => simp
  | cons c rest ih =>
      obtain ⟨first, others, split⟩ := List.exists_cons_of_ne_nil (List.splitOn_ne_nil mark rest)
      rw [split, List.forall_mem_cons] at ih
      rw [List.splitOn_cons_eq_if_modifyHead, split]
      by_cases same : c = mark
      · simpa [same] using ih
      · simpa [same, Ne.symm same] using ih

/-- What is left of a part without the blanks around it is a piece of the part. -/
theorem mem_of_mem_trim {c : Char} {cs : List Char} (member : c ∈ Text.trim cs) : c ∈ cs := by
  have inner : c ∈ (Text.trimLeft cs).reverse := (List.dropWhile_sublist _).mem (List.mem_reverse.1 member)
  exact (List.dropWhile_sublist _).mem (List.mem_reverse.1 inner)

namespace Text

variable {cs left right : List Char}

/-! ### Blanks around a text -/

theorem trimRight_append (blank : ∀ c ∈ right, isBlank c = true) (cs : List Char) :
    trimRight (cs ++ right) = trimRight cs := by
  unfold trimRight
  rw [List.reverse_append, List.dropWhile_append_of_pos]
  simpa using blank

theorem trimRight_cons (c : Char) (rest : List Char) :
    trimRight (c :: rest) = if (c :: rest).all isBlank then [] else c :: trimRight rest := by
  unfold trimRight
  rw [List.reverse_cons, List.dropWhile_append]
  cases blank : rest.all isBlank with
  | true =>
      have nothing : rest.reverse.dropWhile isBlank = [] :=
        List.dropWhile_eq_nil_iff.2 (by simpa using blank)
      cases first : isBlank c <;> simp [blank, nothing, first]
  | false =>
      have something : rest.reverse.dropWhile isBlank ≠ [] := by
        simpa [List.dropWhile_eq_nil_iff] using blank
      simp [blank, something]

/-- Blanks on either side are trimmed away. -/
theorem trim_pad (before : ∀ c ∈ left, isBlank c = true) (after : ∀ c ∈ right, isBlank c = true)
    (cs : List Char) : trim (left ++ cs ++ right) = trim cs := by
  unfold trim trimLeft
  rw [List.append_assoc, List.dropWhile_append_of_pos before, List.dropWhile_append]
  split
  next blank =>
    have nothing : right.dropWhile isBlank = [] := List.dropWhile_eq_nil_iff.2 after
    rw [nothing, List.isEmpty_iff.1 blank]
  next => exact trimRight_append after _

/-- A text without blanks is left as it is. -/
theorem trim_of_unblank (unblank : ∀ c ∈ cs, isBlank c = false) : trim cs = cs := by
  have left : trimLeft cs = cs := by
    refine List.dropWhile_eq_self_iff.2 fun some => ?_
    simp [unblank _ (List.getElem_mem some)]
  have right : trimRight cs = cs := by
    refine List.rdropWhile_eq_self_iff.2 fun some => ?_
    simp [unblank _ (List.getLast_mem some)]
  rw [trim, left, right]

/-- To trim again takes nothing more away. -/
theorem trim_trim (cs : List Char) : trim (trim cs) = trim cs := by
  have left : trimLeft (trim cs) = trim cs := by
    refine List.dropWhile_eq_self_iff.2 fun some => ?_
    have start : trim cs <+: trimLeft cs := List.rdropWhile_prefix isBlank _
    have first : 0 < (trimLeft cs).length := some.trans_le start.length_le
    rw [start.getElem some]
    exact List.dropWhile_get_zero_not isBlank cs first
  show trimRight (trimLeft (trim cs)) = trim cs
  rw [left]
  exact List.rdropWhile_idempotent _ _

/-! ### Parts between commas -/

/-- The parts of a text between its commas, without the blanks around them. -/
def commaParts (text : String) : List (List Char) := (text.toList.splitOn ',').map trim

theorem not_mem_of_mem_commaParts {text : String} : ∀ part ∈ commaParts text, ',' ∉ part := by
  refine List.forall_mem_map.2 fun part among comma => ?_
  exact not_mem_of_mem_splitOn part among (mem_of_mem_trim comma)

theorem trim_of_mem_commaParts {text : String} : ∀ part ∈ commaParts text, trim part = part :=
  List.forall_mem_map.2 fun part _ => trim_trim part

/-- Blanks after the commas go to the parts that follow. -/
theorem intercalate_pad (blanks first : List Char) (others : List (List Char)) :
    (',' :: blanks).intercalate (first :: others) =
      [','].intercalate (first :: others.map (blanks ++ ·)) := by
  induction others generalizing first with
  | nil => simp
  | cons next rest ih =>
      rw [List.map_cons, List.intercalate_cons_cons, ih, List.intercalate_cons_cons]
      cases rest with
      | nil => simp
      | cons => simp [List.intercalate_cons_cons]

/-- A text that is joined from parts, with commas and blanks between them, has these parts. -/
theorem commaParts_intercalate {separator : String} {blanks : List Char}
    (comma : separator.toList = ',' :: blanks) (blank : ∀ c ∈ blanks, isBlank c = true)
    {texts : List String} (some : texts ≠ []) (single : ∀ text ∈ texts, ',' ∉ text.toList) :
    commaParts (separator.intercalate texts) = texts.map fun text => trim text.toList := by
  obtain ⟨first, others, rfl⟩ := List.exists_cons_of_ne_nil some
  obtain ⟨head, tail⟩ := List.forall_mem_cons.1 single
  have unmarked : ',' ∉ blanks := fun member => absurd (blank _ member) (by decide)
  unfold commaParts
  rw [String.toList_intercalate, comma, List.map_cons, intercalate_pad, List.splitOn_intercalate]
  · simp only [List.map_cons, List.map_map, List.cons.injEq, true_and]
    refine List.map_congr_left fun text _ => ?_
    simpa using trim_pad blank (List.forall_mem_nil _) text.toList
  · simpa [unmarked, head] using tail
  · exact List.cons_ne_nil _ _

end Text

end Narrative
