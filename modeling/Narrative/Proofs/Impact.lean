/-
Module: Narrative.Proofs.Impact
Purpose: What is known of impacts that were read: they are written as they were, and what they add
  or remove can be a tag, though nothing keeps blanks out of it.
Main exports: Impact.parse_cases, Impact.Written, Impact.written_of_parse, Impact.text_of_parse,
  Impact.texts_of_parseList, Impact.isTag_of_parseList
-/
import Narrative.Impact
import Narrative.Proofs.Reference
import Narrative.Proofs.Tag

namespace Narrative

namespace Impact

/-! ### Signs -/

section Signs

variable (expression : String) (argument : List Char)

theorem ofSign_manipulate (manipulation : Manipulation) :
    ofSign expression manipulation.sign argument =
      (Reference.parse (String.ofList argument)).map (.manipulate manipulation) := by
  rw [ofSign, Manipulation.ofSign?_sign]
  rfl

theorem ofSign_focus :
    ofSign expression '>' argument =
      if '.' ∈ argument then .error (.invalidExpression expression .targetNotPlain)
      else .ok (.focus (String.ofList argument)) := by
  simp [ofSign, Manipulation.ofSign?]

theorem ofSign_event :
    ofSign expression '#' argument = (Reference.parse (String.ofList argument)).map .event := by
  simp only [ofSign, Manipulation.ofSign?]
  rfl

theorem ofSign_unknown {sign : Char} (unknown : sign ∉ ['+', '-', '!', '>', '#']) :
    ofSign expression sign argument = .error (.invalidExpression expression (.unknownSign sign)) := by
  simp only [List.mem_cons, not_or] at unknown
  simp [ofSign, Manipulation.ofSign?, unknown]

end Signs

/-- What a character is as a sign. -/
theorem sign_cases (sign : Char) :
    (∃ manipulation : Manipulation, sign = manipulation.sign) ∨ sign = '>' ∨ sign = '#' ∨
      sign ∉ ['+', '-', '!', '>', '#'] := by
  by_cases known : sign ∈ ['+', '-', '!', '>', '#']
  · simp only [List.mem_cons, List.not_mem_nil, or_false] at known
    rcases known with rfl | rfl | rfl | rfl | rfl
    · exact .inl ⟨.add, rfl⟩
    · exact .inl ⟨.remove, rfl⟩
    · exact .inl ⟨.invert, rfl⟩
    · exact .inr (.inl rfl)
    · exact .inr (.inr (.inl rfl))
  · exact .inr (.inr (.inr known))

/-- A text has no argument, or a sign and an argument that are read. -/
theorem parse_cases (cs : List Char) :
    ((Text.trim cs).length < 2 ∧
      parse cs = .error (.invalidExpression (String.ofList (Text.trim cs)) .notEnoughArguments)) ∨
    ∃ sign argument, Text.trim cs = sign :: argument ∧ argument ≠ [] ∧
      parse cs = ofSign (String.ofList (sign :: argument)) sign argument := by
  unfold parse
  split
  next sign first rest trimmed => exact .inr ⟨sign, first :: rest, trimmed, List.cons_ne_nil _ _, rfl⟩
  next short =>
    refine .inl ⟨?_, rfl⟩
    match trimmed : Text.trim cs with
    | [] | [_] => simp
    | sign :: first :: rest => exact absurd trimmed (short sign first rest)

/-! ### Impacts and their texts -/

/-- An impact, and the text that it was read from, without the blanks around it. -/
inductive Written : List Char → Impact → Prop
  | manipulate (manipulation : Manipulation) {argument : List Char} {reference : Reference}
      (done : Reference.parse (String.ofList argument) = .ok reference) :
    Written (manipulation.sign :: argument) (.manipulate manipulation reference)
  | focus {key : List Char} (whole : '.' ∉ key) : Written ('>' :: key) (.focus (String.ofList key))
  | event {argument : List Char} {reference : Reference}
      (done : Reference.parse (String.ofList argument) = .ok reference) :
    Written ('#' :: argument) (.event reference)

theorem written_of_parse {part : List Char} {impact : Impact} (read : parse part = .ok impact) :
    Written (Text.trim part) impact := by
  obtain ⟨_, failed⟩ | ⟨sign, argument, trimmed, _, reads⟩ := parse_cases part
  · rw [failed] at read
    cases read
  · rw [trimmed]
    rw [reads] at read
    obtain ⟨manipulation, rfl⟩ | rfl | rfl | unknown := sign_cases sign
    · rw [ofSign_manipulate] at read
      obtain ⟨reference, done, rfl⟩ := map_eq_ok.1 read
      exact .manipulate manipulation done
    · rw [ofSign_focus] at read
      split at read
      next => cases read
      next whole =>
        cases read
        exact .focus whole
    · rw [ofSign_event] at read
      obtain ⟨reference, done, rfl⟩ := map_eq_ok.1 read
      exact .event done
    · rw [ofSign_unknown _ _ unknown] at read
      cases read

theorem Written.text_eq {cs : List Char} {impact : Impact} (written : Written cs impact) :
    impact.text = String.ofList cs := by
  cases written with
  | manipulate _ done | event done => simp [text, Reference.text_of_parse done]
  | focus => simp [text]

/-- A part that is read as an impact is, without the blanks around it, the text of that impact. -/
theorem text_of_parse {part : List Char} {impact : Impact} (read : parse part = .ok impact) :
    impact.text = String.ofList (Text.trim part) :=
  (written_of_parse read).text_eq

/-- What an impact adds or removes, read from a part between commas, can be a tag. -/
theorem isTag_of_parse {part : List Char} {manipulation : Manipulation} {reference : Reference}
    (read : parse part = .ok (.manipulate manipulation reference)) (whole : ',' ∉ part) :
    IsTag reference.property := by
  have written := written_of_parse read
  generalize trimmed : Text.trim part = cs at written
  obtain ⟨_, done⟩ := written
  refine ⟨Reference.property_of_parse done, fun comma => whole (mem_of_mem_trim ?_)⟩
  have inside := Reference.mem_text_of_mem_property comma
  rw [Reference.text_of_parse done, String.toList_ofList] at inside
  rw [trimmed]
  exact List.mem_cons_of_mem _ inside

/-! ### Lists of impacts -/

/-- A list of impacts is written as it was read, but for the blanks around them. -/
theorem texts_of_parseList {expression : String} {impacts : List Impact}
    (read : parseList (some expression) = .ok impacts) :
    impacts.map text =
      (expression.toList.splitOn ',').map fun part => String.ofList (Text.trim part) :=
  map_of_mapM (fun _ _ => text_of_parse) read

theorem isTag_of_parseList {written : Option String} {impacts : List Impact}
    (read : parseList written = .ok impacts) {manipulation : Manipulation} {reference : Reference}
    (member : .manipulate manipulation reference ∈ impacts) : IsTag reference.property := by
  cases written with
  | none =>
      cases read
      cases member
  | some text =>
      obtain ⟨part, among, made⟩ := exists_of_mapM read _ member
      exact isTag_of_parse made (not_mem_of_mem_splitOn part among)

end Impact

end Narrative
