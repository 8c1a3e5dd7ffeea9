/-
Module: Narrative.Proofs.Reference
Purpose: Reading a reference loses nothing: the reference is written as it was read.
Main exports: IsWord, Reference.Written, Reference.parse_eq_ok_iff, Reference.text_of_parse,
  Reference.parse_text, Reference.property_of_parse, Reference.element_of_parse
-/
import Narrative.Proofs.Text.Parts
import Narrative.Reference

namespace Narrative

/-- A word of a reference: not empty, and without points. -/
structure IsWord (word : List Char) : Prop where
  filled : word ≠ []
  whole : '.' ∉ word

namespace Reference

theorem text_qualified (element property : String) :
    (qualified element property).text = element ++ "." ++ property := by
  unfold qualified
  split
  · rfl
  · split <;> rfl

theorem property_qualified (element property : String) :
    (qualified element property).property = property := by
  unfold qualified
  split
  · rfl
  · split <;> rfl

theorem element?_qualified (element property : String) :
    (qualified element property).element? = some element := by
  unfold qualified
  split
  · rfl
  · split <;> rfl

/-! ### What is read -/

/-- A reference, and the text that it was read from. -/
inductive Written : List Char → Reference → Prop
  | own {property : List Char} (word : IsWord property) :
    Written property (.own (String.ofList property))
  | qualified {element property : List Char} (first : IsWord element) (second : IsWord property) :
    Written (element ++ '.' :: property) (qualified (String.ofList element) (String.ofList property))

theorem parse_eq_ok_iff {expression : String} {reference : Reference} :
    parse expression = .ok reference ↔ Written expression.toList reference := by
  unfold parse
  constructor
  · intro read
    have joined : ['.'].intercalate (expression.toList.splitOn '.') = expression.toList :=
      List.intercalate_splitOn '.'
    have whole : ∀ word ∈ expression.toList.splitOn '.', '.' ∉ word := not_mem_of_mem_splitOn
    split at read
    next property parts =>
      split at read
      next => cases read
      next filled =>
        cases read
        rw [parts] at joined whole
        have same : property = expression.toList := by simpa using joined
        rw [← same]
        exact .own ⟨by simpa using filled, whole property (by simp)⟩
    next element property parts =>
      split at read
      next => cases read
      next filled =>
        cases read
        rw [parts] at joined whole
        have same : element ++ '.' :: property = expression.toList := by
          simpa [List.intercalate] using joined
        rw [← same]
        simp only [Bool.or_eq_true, List.isEmpty_iff, not_or] at filled
        exact .qualified ⟨filled.1, whole element (by simp)⟩ ⟨filled.2, whole property (by simp)⟩
    next => cases read
  · intro written
    generalize expression.toList = cs at written
    cases written with
    | own word => simp [List.splitOn_eq_singleton word.whole, word.filled]
    | @qualified element property first second =>
        have whole : ∀ word ∈ [element, property], '.' ∉ word := by simp [first.whole, second.whole]
        have parts : (element ++ '.' :: property).splitOn '.' = [element, property] := by
          simpa [List.intercalate] using List.splitOn_intercalate '.' whole (by simp)
        simp [parts, first.filled, second.filled]

theorem Written.text_eq {cs : List Char} {reference : Reference} (written : Written cs reference) :
    reference.text.toList = cs := by
  cases written with
  | own => simp [text]
  | qualified => simp [text_qualified]

/-- A text that is read as a reference is the text of that reference. -/
theorem text_of_parse {expression : String} {reference : Reference}
    (read : parse expression = .ok reference) : reference.text = expression :=
  String.toList_injective (parse_eq_ok_iff.1 read).text_eq

/-- What was read from a text is read from its own text. -/
theorem parse_text {expression : String} {reference : Reference}
    (read : parse expression = .ok reference) : parse reference.text = .ok reference := by
  rw [text_of_parse read, read]

theorem mem_text_of_mem_property {c : Char} {reference : Reference}
    (member : c ∈ reference.property.toList) : c ∈ reference.text.toList := by
  cases reference with
  | own property => exact member
  | player element property | inventory element property | keyed element property =>
      rw [text, String.toList_append]
      exact List.mem_append_right _ member

/-- What a reference names is not empty. -/
theorem property_of_parse {expression : String} {reference : Reference}
    (read : parse expression = .ok reference) : reference.property ≠ "" := by
  have written := parse_eq_ok_iff.1 read
  generalize expression.toList = cs at written
  cases written with
  | own word => simpa [Reference.property] using word.filled
  | qualified _ second => simpa [property_qualified] using second.filled

/-- The word before the point is not empty. -/
theorem element_of_parse {expression element : String} {reference : Reference}
    (read : parse expression = .ok reference) (named : reference.element? = some element) :
    element ≠ "" := by
  have written := parse_eq_ok_iff.1 read
  generalize expression.toList = cs at written
  cases written with
  | own => cases named
  | qualified first =>
      rw [element?_qualified] at named
      cases named
      simpa using first.filled

/-- A text that is no reference is named in the error. -/
theorem parse_error {expression : String} {error : CompileError}
    (failed : parse expression = .error error) : error = .malformedReference expression := by
  unfold parse at failed
  split at failed
  · split at failed <;> cases failed
    rfl
  · split at failed <;> cases failed
    rfl
  · cases failed
    rfl

end Reference

end Narrative
