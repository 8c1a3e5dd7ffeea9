/-
Module: Narrative.Proofs.Markup.Search
Purpose: Which mark of a text comes next, by positions: the first opening bracket from a position on, the
  first bracket after it, and the groups in braces that follow it directly.
Main exports: FirstFrom, Groups, groups_iff, Marks, Marks.unique, marks_of_markFrom?,
  markFrom?_eq_none_iff, markFrom?_eq_some_iff, markFrom?_written, search_finds
-/
import Narrative.Proofs.Markup.Scan

namespace Narrative.Markup

/-! ### First positions -/

/-- The first position from another one on whose character passes a test. -/
structure FirstFrom (test : Char → Bool) (text : List Char) (start index : Nat) : Prop where
  start_le : start ≤ index
  passes : ∃ c, text[index]? = some c ∧ test c = true
  skipped : ∀ n c, start ≤ n → n < index → text[n]? = some c → test c = false

namespace FirstFrom

variable {test : Char → Bool} {text before after : List Char} {c : Char} {start index other : Nat}

/-- A text that is cut where the test first holds. -/
theorem of_drop (parts : text.drop start = before ++ c :: after)
    (skipped : ∀ b ∈ before, test b = false) (passes : test c = true) :
    FirstFrom test text start (start + before.length) where
  start_le := Nat.le_add_right _ _
  passes := by
    refine ⟨c, ?_, passes⟩
    rw [← List.getElem?_drop, parts, List.getElem?_append_right (Nat.le_refl _), Nat.sub_self]
    rfl
  skipped n d above below there := by
    obtain ⟨offset, rfl⟩ := Nat.exists_eq_add_of_le above
    rw [← List.getElem?_drop, parts, List.getElem?_append_left (by omega)] at there
    exact skipped d (List.mem_of_getElem? there)

theorem unique (first : FirstFrom test text start index) (second : FirstFrom test text start other) :
    index = other := by
  obtain ⟨c, here, passes⟩ := first.passes
  obtain ⟨d, there, passes'⟩ := second.passes
  rcases Nat.lt_trichotomy index other with less | same | more
  · rw [second.skipped index c first.start_le less here] at passes
    cases passes
  · exact same
  · rw [first.skipped other d second.start_le more there] at passes'
    cases passes'

/-- What passes the test stands in the rest of the text. -/
theorem exists_mem (first : FirstFrom test text start index) : ∃ c ∈ text.drop start, test c = true := by
  obtain ⟨c, there, passes⟩ := first.passes
  obtain ⟨offset, rfl⟩ := Nat.exists_eq_add_of_le first.start_le
  rw [← List.getElem?_drop] at there
  exact ⟨c, List.mem_of_getElem? there, passes⟩

end FirstFrom

/-! ### Groups in braces -/

/-- The groups in braces that a text begins with: they follow one another directly, each is closed by the
brace that balances its opening one, and no further group follows the last. -/
structure Groups (text : List Char) (groups : List (List Char)) (after : List Char) : Prop where
  parts : text = groups.flatMap braced ++ after
  balanced : ∀ group ∈ groups, Balanced group
  maximal : ¬ ∃ group rest, Balanced group ∧ after = braced group ++ rest

/-- The arguments that are read are the groups that the text begins with. -/
theorem groups_iff {text after : List Char} {groups : List (List Char)} :
    Groups text groups after ↔ arguments text = (groups, after) := by
  constructor
  · rintro ⟨rfl, balanced, maximal⟩
    have nothing := arguments_fst_eq_nil_iff.2 maximal
    have rest := arguments_eq after
    rw [nothing, List.flatMap_nil, List.nil_append] at rest
    rw [arguments_append balanced, nothing, ← rest, List.append_nil]
  · intro read
    have parts := arguments_eq text
    have ends := arguments_after text
    rw [read] at parts ends
    refine ⟨parts, fun group member => ?_, arguments_fst_eq_nil_iff.1 ends⟩
    have isArgument : group ∈ (arguments text).1 := by rwa [read]
    exact balanced_of_mem_arguments isArgument

/-! ### Marks by their positions -/

/-- The mark that comes next from a position on. Of two opening brackets without a closing one between
them it is the second. A name in brackets is a directive, which reaches to the end of the groups that
follow it. -/
inductive Marks (text : List Char) (start : Nat) : Mark → Prop
  | escape {opening second : Nat} (opens : FirstFrom (· == '[') text start opening)
      (next : FirstFrom isBracket text (opening + 1) second) (again : text[second]? = some '[') :
      Marks text start ⟨second, 1, none⟩
  | directive {opening closing : Nat} {groups : List (List Char)} {after : List Char}
      (opens : FirstFrom (· == '[') text start opening)
      (next : FirstFrom isBracket text (opening + 1) closing) (closes : text[closing]? = some ']')
      (follow : Groups (text.drop (closing + 1)) groups after) :
      Marks text start ⟨opening, closing + 1 - opening + (groups.flatMap braced).length,
        some ⟨(text.take closing).drop (opening + 1), groups⟩⟩

/-- Before a mark a bracket opens, and another bracket follows it. -/
theorem Marks.exists_brackets {text : List Char} {start : Nat} {mark : Mark}
    (marks : Marks text start mark) :
    ∃ opening next, FirstFrom (· == '[') text start opening ∧
      FirstFrom isBracket text (opening + 1) next := by
  cases marks with
  | escape opens next _ => exact ⟨_, _, opens, next⟩
  | directive opens next _ _ => exact ⟨_, _, opens, next⟩

/-- There is at most one next mark. -/
theorem Marks.unique {text : List Char} {start : Nat} {mark other : Mark}
    (first : Marks text start mark) (second : Marks text start other) : mark = other := by
  cases first with
  | escape opens next again =>
      cases second with
      | escape opens' next' again' =>
          cases opens.unique opens'
          cases next.unique next'
          rfl
      | directive opens' next' closes' _ =>
          cases opens.unique opens'
          cases next.unique next'
          cases again.symm.trans closes'
  | directive opens next closes follow =>
      cases second with
      | escape opens' next' again' =>
          cases opens.unique opens'
          cases next.unique next'
          cases closes.symm.trans again'
      | directive opens' next' closes' follow' =>
          cases opens.unique opens'
          cases next.unique next'
          cases (groups_iff.1 follow).symm.trans (groups_iff.1 follow')
          rfl

/-! ### From the search to the positions -/

/-- What stands after the first character that passes a test. -/
theorem drop_succ_of_drop {text before after : List Char} {c : Char} {start : Nat}
    (parts : text.drop start = before ++ c :: after) :
    text.drop (start + before.length + 1) = after := by
  rw [Nat.add_assoc, ← List.drop_drop, parts, ← List.drop_drop, List.drop_left]
  rfl

/-- A bracket opens at a position and the next bracket stands at another one: their positions are the
first ones, and what stands between them and after them is known. -/
structure Brackets (text : List Char) (start opening second : Nat) (name : List Char) (bracket : Char)
    (rest : List Char) : Prop where
  opens : FirstFrom (· == '[') text start opening
  next : FirstFrom isBracket text (opening + 1) second
  there : text[second]? = some bracket
  between : (text.take second).drop (opening + 1) = name
  after : text.drop (second + 1) = rest

theorem brackets_of_drop {text before name rest : List Char} {bracket : Char} {start : Nat}
    (parts : text.drop start = before ++ '[' :: (name ++ bracket :: rest))
    (unopened : ∀ c ∈ before, c ≠ '[') (named : ∀ c ∈ name, isBracket c = false)
    (isOne : isBracket bracket = true) :
    Brackets text start (start + before.length) (start + before.length + 1 + name.length) name bracket
      rest where
  opens := .of_drop parts (by simpa using unopened) (by decide)
  next := .of_drop (drop_succ_of_drop parts) named isOne
  there := by
    rw [← List.getElem?_drop, drop_succ_of_drop parts, List.getElem?_append_right (Nat.le_refl _),
      Nat.sub_self]
    rfl
  between := by
    rw [List.drop_take, drop_succ_of_drop parts, Nat.add_sub_cancel_left, List.take_left]
  after := drop_succ_of_drop (drop_succ_of_drop parts)

/-- What is found is the next mark. -/
theorem marks_of_markFrom? {text : List Char} {start : Nat} {mark : Mark}
    (marked : markFrom? text start = some mark) : Marks text start mark := by
  obtain ⟨found, search, rfl⟩ := Option.map_eq_some_iff.1 marked
  have shape := shape_find? (text.drop start)
  rw [search] at shape
  generalize here : text.drop start = rest at shape
  cases shape with
  | @escape before name rest unopened named =>
      have brackets := brackets_of_drop here unopened named (by decide)
      have same : Found.mark start ⟨before ++ '[' :: name, none, rest⟩ =
          ⟨start + before.length + 1 + name.length, 1, none⟩ := by
        simp [Found.mark, Found.written]
        omega
      rw [same]
      exact .escape brackets.opens brackets.next brackets.there
  | @directive before name rest unopened named =>
      have brackets := brackets_of_drop here unopened named (by decide)
      have follow : Groups rest (arguments rest).1 (arguments rest).2 := groups_iff.2 rfl
      rw [← brackets.after] at follow
      have marks := Marks.directive brackets.opens brackets.next brackets.there follow
      rw [brackets.after, brackets.between] at marks
      have length : start + before.length + 1 + name.length + 1 - (start + before.length) =
          name.length + 2 := by omega
      have written : Found.mark start ⟨before, some ⟨name, (arguments rest).1⟩, (arguments rest).2⟩ =
          ⟨start + before.length, name.length + 2 + ((arguments rest).1.flatMap braced).length,
            some ⟨name, (arguments rest).1⟩⟩ := by
        simp [Found.mark, Found.written, Directive.written]
        omega
      rw [written, ← length]
      exact marks

/-- Nothing is found just where no bracket opens, or none follows the one that opens. -/
theorem markFrom?_eq_none_iff {text : List Char} {start : Nat} :
    markFrom? text start = none ↔
      ¬ ∃ opening next, FirstFrom (· == '[') text start opening ∧
        FirstFrom isBracket text (opening + 1) next := by
  constructor
  · rintro missing ⟨opening, next, opens, follows⟩
    have shape := shape_find? (text.drop start)
    rw [Option.map_eq_none_iff.1 missing] at shape
    generalize here : text.drop start = rest at shape
    cases shape with
    | plain unopened =>
        obtain ⟨c, member, isOpening⟩ := opens.exists_mem
        exact unopened c (here ▸ member) (by simpa using isOpening)
    | @unclosed before name unopened named =>
        have first : FirstFrom (· == '[') text start (start + before.length) :=
          .of_drop here (by simpa using unopened) (by decide)
        rw [opens.unique first] at follows
        obtain ⟨c, member, isOne⟩ := follows.exists_mem
        rw [drop_succ_of_drop here] at member
        rw [named c member] at isOne
        cases isOne
  · intro nowhere
    cases marked : markFrom? text start with
    | none => rfl
    | some mark => exact absurd (marks_of_markFrom? marked).exists_brackets nowhere

/-- A mark is found just if it is the next one. -/
theorem markFrom?_eq_some_iff {text : List Char} {start : Nat} {mark : Mark} :
    markFrom? text start = some mark ↔ Marks text start mark := by
  refine ⟨marks_of_markFrom?, fun marks => ?_⟩
  cases marked : markFrom? text start with
  | some other => rw [marks.unique (marks_of_markFrom? marked)]
  | none => exact absurd marks.exists_brackets (markFrom?_eq_none_iff.1 marked)

/-- A directive with a name without brackets and balanced arguments is found as it is written, if no
brace opens after it. -/
theorem markFrom?_written {directive : Directive} (named : ∀ c ∈ directive.name, isBracket c = false)
    (balanced : ∀ argument ∈ directive.arguments, Balanced argument) {before after : List Char}
    {start : Nat} (ends : after.head? ≠ some '{') (start_le : start ≤ before.length)
    (unopened : '[' ∉ before.drop start) :
    markFrom? (before ++ directive.written ++ after) start =
      some ⟨before.length, directive.written.length, some directive⟩ := by
  have plain : ∀ c ∈ before.drop start, c ≠ '[' := fun c member same => unopened (same ▸ member)
  have found := find?_append plain (directive.written ++ after)
  rw [find?_directive named balanced ends] at found
  have length : start + (before.drop start).length = before.length := by
    rw [List.length_drop]
    omega
  rw [markFrom?, List.append_assoc, List.drop_append_of_le_length start_le, found]
  simp only [Option.map_some, Found.mark, Found.written, List.append_nil, length]

/-- The search for the next mark, at every position of a text and past its end. A scan of the characters
finds what the search finds. It finds nothing just where no bracket opens or none follows the one that
opens, and a mark just if it is the next one. The characters of a directive in its text are the
directive as it is written, and its arguments are balanced. A directive that is written with a name
without brackets and balanced arguments, and no further brace after it, is found again. -/
theorem search_finds (text : List Char) (start : Nat) :
    Scan.searching.run start (text.drop start) = markFrom? text start ∧
    (markFrom? text start = none ↔
      ¬ ∃ opening next, FirstFrom (· == '[') text start opening ∧
        FirstFrom isBracket text (opening + 1) next) ∧
    (∀ mark, markFrom? text start = some mark ↔ Marks text start mark) ∧
    (∀ mark directive, markFrom? text start = some mark → mark.directive? = some directive →
      mark.written text = directive.written ∧
        ∀ argument ∈ directive.arguments, Balanced argument) ∧
    ∀ directive before after, text = before ++ Directive.written directive ++ after →
      (∀ c ∈ directive.name, isBracket c = false) →
      (∀ argument ∈ directive.arguments, Balanced argument) → after.head? ≠ some '{' →
      start ≤ before.length → '[' ∉ before.drop start →
      markFrom? text start = some ⟨before.length, directive.written.length, some directive⟩ := by
  refine ⟨scan_eq text start, markFrom?_eq_none_iff, fun mark => markFrom?_eq_some_iff, ?_, ?_⟩
  · intro mark directive marked named
    have here : Expansion.mark? ⟨text, start, {}⟩ = some mark := marked
    obtain ⟨found, finds⟩ := Expansion.finds_of_mark? here
    have sameDirective : found.directive? = some directive := finds.directive?.symm.trans named
    refine ⟨by rw [finds.written, Found.written, sameDirective], ?_⟩
    cases marks_of_markFrom? marked with
    | escape => cases named
    | directive _ _ _ follow =>
        cases named
        exact follow.balanced
  · rintro directive before after rfl named balanced ends start_le unopened
    exact markFrom?_written named balanced ends start_le unopened

/-- A directive with nested braces. -/
def braces : Directive := ⟨['r'], ["x\x7by\x7d".toList, ['z']]⟩

/-- A bracket that opens twice, from the second one on the directive, and after it a group that is never
closed. -/
def reopened : List Char := "a[b".toList ++ braces.written ++ "w\x7bv".toList

/-- From the beginning the second bracket is the mark, from there on the directive with its two
arguments, and past the end there is none. -/
theorem search_finds_reopened :
    Marks reopened 0 ⟨3, 1, none⟩ ∧ markFrom? reopened 3 = some ⟨3, 12, some braces⟩ ∧
    Mark.written ⟨3, 12, some braces⟩ reopened = "[r]\x7bx\x7by\x7d\x7d\x7bz\x7d".toList ∧
    Marks reopened 3 ⟨3, 12, some braces⟩ ∧ markFrom? reopened 40 = none := by
  have second : markFrom? reopened 0 = some ⟨3, 1, none⟩ := by decide +kernel
  have named : ∀ c ∈ braces.name, isBracket c = false := by simp [braces, isBracket]
  obtain ⟨_, _, next_iff, written, again⟩ := search_finds reopened 3
  have found : markFrom? reopened 3 = some ⟨3, 12, some braces⟩ :=
    again braces _ _ rfl named (by decide) (by decide) (by decide) (by decide)
  refine ⟨((search_finds reopened 0).2.2.1 _).1 second, found, ?_, (next_iff _).1 found, rfl⟩
  exact (written _ _ found rfl).1

/-- An argument that is never closed does not count. -/
example : markFrom? "[r]\x7ba\x7d\x7bb".toList 0 = some ⟨0, 6, some ⟨['r'], [['a']]⟩⟩ := by
  decide +kernel

end Narrative.Markup
