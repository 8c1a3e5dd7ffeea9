/-
Module: Narrative.Proofs.Engine.Lines
Purpose: Lines of menus. Lines in groups by kind have empty lines where the kind changes, and lines with a
  key in brackets, whose titles have no opening bracket, can be read in one way only.
Main exports: spacedLines, groupLines_filter, entryLine, IsLegible, eq_of_spacedLines, eq_of_lines
-/
import Mathlib.Data.List.Nodup
import Narrative.Engine.Describe

namespace Narrative

/-! ### Lines with gaps between them -/

section

variable {α κ : Type} [DecidableEq κ] {kind : α → κ} {line : α → String}

/-- A line for each entry, with an empty line wherever the kind of the entries changes. -/
def spacedLines (kind : α → κ) (line : α → String) : List α → List String
  | [] => []
  | [entry] => [line entry]
  | entry :: next :: rest =>
    line entry :: (if kind entry = kind next then [] else [""]) ++ spacedLines kind line (next :: rest)

theorem spacedLines_map {β : Type} (make : β → α) (entries : List β) :
    spacedLines kind line (entries.map make) = spacedLines (kind <| make ·) (line <| make ·) entries := by
  induction entries with
  | nil => rfl
  | cons entry rest ih =>
      cases rest with
      | nil => rfl
      | cons next rest =>
          rw [List.map_cons] at ih
          rw [List.map_cons, List.map_cons, spacedLines, spacedLines, ih]

/-- Only the kinds of the entries that there are matter. -/
theorem spacedLines_congr {other : α → κ} {entries : List α}
    (same : ∀ entry ∈ entries, kind entry = other entry) :
    spacedLines kind line entries = spacedLines other line entries := by
  induction entries with
  | nil => rfl
  | cons entry rest ih =>
      cases rest with
      | nil => rfl
      | cons next rest =>
          obtain ⟨one, same⟩ := List.forall_mem_cons.1 same
          rw [spacedLines, spacedLines, one, same next List.mem_cons_self, ih same]

/-- Between entries of one kind there is no gap. -/
theorem spacedLines_alike {entries : List α} {common : κ}
    (alike : ∀ entry ∈ entries, kind entry = common) :
    spacedLines kind line entries = entries.map line := by
  induction entries with
  | nil => rfl
  | cons entry rest ih =>
      cases rest with
      | nil => rfl
      | cons next rest =>
          obtain ⟨one, alike⟩ := List.forall_mem_cons.1 alike
          rw [spacedLines, one, alike next List.mem_cons_self, if_pos rfl, ih alike]
          rfl

/-- Between entries of different kinds there is one. -/
theorem spacedLines_append {first second : List α} (some : first ≠ []) (others : second ≠ [])
    (differ : ∀ entry ∈ first, ∀ other ∈ second, kind entry ≠ kind other) :
    spacedLines kind line (first ++ second) =
      spacedLines kind line first ++ "" :: spacedLines kind line second := by
  induction first with
  | nil => exact absurd rfl some
  | cons entry rest ih =>
      obtain ⟨one, differ⟩ := List.forall_mem_cons.1 differ
      cases rest with
      | nil =>
          obtain ⟨next, more, rfl⟩ := List.exists_cons_of_ne_nil others
          have gap := one next List.mem_cons_self
          simp [spacedLines, gap]
      | cons next rest =>
          have rest := ih (List.cons_ne_nil _ _) differ
          rw [List.cons_append] at rest
          rw [List.cons_append, List.cons_append, spacedLines, spacedLines, rest]
          simp

/-! ### Groups of entries -/

theorem groupLines_nil_cons (groups : List (List String)) : groupLines ([] :: groups) = groupLines groups :=
  rfl

theorem filter_isEmpty_eq_nil_iff {groups : List (List String)} :
    groups.filter (! ·.isEmpty) = [] ↔ groups.flatten = [] := by
  simp [List.filter_eq_nil_iff, List.flatten_eq_nil_iff]

theorem groupLines_cons {group : List String} {groups : List (List String)} (some : group ≠ [])
    (others : groups.flatten ≠ []) : groupLines (group :: groups) = group ++ "" :: groupLines groups := by
  unfold groupLines
  rw [List.filter_cons, if_pos (by simpa using some),
    List.intercalate_cons_of_ne_nil (mt filter_isEmpty_eq_nil_iff.1 others), List.append_assoc,
    List.singleton_append]

/-- After the last group that is not empty there is no gap. -/
theorem groupLines_last {group : List String} {groups : List (List String)} (some : group ≠ [])
    (none : groups.flatten = []) : groupLines (group :: groups) = group := by
  unfold groupLines
  rw [List.filter_cons, if_pos (by simpa using some), filter_isEmpty_eq_nil_iff.2 none,
    List.intercalate_singleton]

/-- Entries in groups by kind have their gaps where the kind changes. The induction is on the kinds. -/
theorem groupLines_filter {kinds : List κ} (different : kinds.Nodup) (entries : List α) :
    groupLines (kinds.map fun one => (entries.filter (kind · = one)).map line) =
      spacedLines kind line (kinds.flatMap fun one => entries.filter (kind · = one)) := by
  induction kinds with
  | nil => rfl
  | cons one kinds ih =>
      obtain ⟨fresh, different⟩ := List.nodup_cons.1 different
      have alike : ∀ entry ∈ entries.filter (kind · = one), kind entry = one := fun entry member =>
        of_decide_eq_true (List.mem_filter.1 member).2
      have others : ∀ entry ∈ kinds.flatMap fun one => entries.filter (kind · = one),
          kind entry ∈ kinds := by
        intro entry member
        obtain ⟨other, among, member⟩ := List.mem_flatMap.1 member
        rwa [of_decide_eq_true (List.mem_filter.1 member).2]
      have flattened : (kinds.map fun one => (entries.filter (kind · = one)).map line).flatten =
          (kinds.flatMap fun one => entries.filter (kind · = one)).map line := by
        rw [List.map_flatMap, List.flatMap_def]
      rw [List.map_cons, List.flatMap_cons]
      by_cases empty : entries.filter (kind · = one) = []
      · rw [empty, List.map_nil, groupLines_nil_cons, List.nil_append, ih different]
      · have filled : (entries.filter (kind · = one)).map line ≠ [] := mt List.map_eq_nil_iff.1 empty
        by_cases last : (kinds.flatMap fun one => entries.filter (kind · = one)) = []
        · rw [groupLines_last filled (flattened.trans (by rw [last, List.map_nil])), last,
            List.append_nil, spacedLines_alike alike]
        · have differ : ∀ entry ∈ entries.filter (kind · = one),
              ∀ other ∈ kinds.flatMap fun one => entries.filter (kind · = one),
              kind entry ≠ kind other := by
            intro entry member other among same
            rw [alike entry member] at same
            exact fresh (same ▸ others other among)
          rw [groupLines_cons filled (flattened ▸ mt List.map_eq_nil_iff.1 last), ih different,
            spacedLines_append empty last differ, spacedLines_alike alike]

end

/-! ### Lines as one text -/

theorem joinLines_cons {line : String} {lines : List String} (more : lines ≠ []) :
    joinLines (line :: lines) = line ++ "\n" ++ joinLines lines := by
  obtain ⟨next, rest, rfl⟩ := List.exists_cons_of_ne_nil more
  exact String.intercalate_cons_cons

theorem head?_joinLines {line : String} (filled : line ≠ "") (lines : List String) :
    (joinLines (line :: lines)).toList.head? = line.toList.head? := by
  have some : line.toList ≠ [] := mt String.toList_eq_nil_iff.1 filled
  by_cases last : lines = []
  · rw [last, joinLines, String.intercalate_singleton]
  · rw [joinLines_cons last, String.append_assoc, String.toList_append, List.head?_append_of_ne_nil _ some]

theorem toList_joinLines (lines : List String) :
    (joinLines lines).toList = ['\n'].intercalate (lines.map String.toList) :=
  String.toList_intercalate

theorem joinLines_cons_inj {line : String} {lines others : List String} (more : lines ≠ [])
    (also : others ≠ []) (same : joinLines (line :: lines) = joinLines (line :: others)) :
    joinLines lines = joinLines others := by
  rw [joinLines_cons more, joinLines_cons also] at same
  exact (String.append_right_inj _).1 same

/-! ### Lines with keys -/

/-- The keys of menus. -/
def menuKeys : List Char := "12345678abcdefghx".toList

/-- How a key is shown. The key of the way back is shown in upper case. -/
def shownKey (key : Char) : Char := if key = 'x' then 'X' else key

/-- The line that is read for a key, with the title that stands there. -/
def entryLine (entry : Char × String) : String := "[" ++ (shownKey entry.1).toString ++ "] " ++ entry.2

/-- An entry of a menu that can be read: its title has no opening bracket. -/
def IsLegible (entry : Char × String) : Prop := entry.1 ∈ menuKeys ∧ '[' ∉ entry.2.toList

theorem menuKeys_eq : menuKeys = numberKeys ++ letterKeys ++ [exitKey] := by decide

theorem toList_entryLine (entry : Char × String) :
    (entryLine entry).toList = '[' :: shownKey entry.1 :: ']' :: ' ' :: entry.2.toList := by
  simp [entryLine, String.toList_append]

theorem shownKey_of_ne {key : Char} (other : key ≠ exitKey) : shownKey key = key := if_neg other

theorem shownKey_ne_opening {key : Char} (isKey : key ∈ menuKeys) : shownKey key ≠ '[' := by
  have none : '[' ∉ menuKeys.map shownKey := by decide
  exact ne_of_mem_of_not_mem (List.mem_map_of_mem isKey) none

/-- No two keys are shown alike. -/
theorem eq_of_shownKey_eq {first second : Char} (isKey : first ∈ menuKeys)
    (alsoKey : second ∈ menuKeys) (same : shownKey first = shownKey second) : first = second := by
  have different : (menuKeys.map shownKey).Nodup := by decide
  exact List.inj_on_of_nodup_map different isKey alsoKey same

/-! ### Reading lines back -/

theorem takeWhile_opening {before after : List Char} (plain : '[' ∉ before)
    (opens : ∀ c ∈ after.head?, c = '[') : (before ++ after).takeWhile (· ≠ '[') = before := by
  rw [List.takeWhile_append_of_pos fun c member => decide_eq_true (ne_of_mem_of_not_mem member plain)]
  cases after with
  | nil => rw [List.takeWhile_nil, List.append_nil]
  | cons c after => simp [opens c rfl]

/-- If two texts are the same, they are so up to an opening bracket, and from there on. -/
theorem cut_at_opening {first second rest more : List Char} (plain : '[' ∉ first)
    (alsoPlain : '[' ∉ second) (opens : ∀ c ∈ rest.head?, c = '[')
    (alsoOpens : ∀ c ∈ more.head?, c = '[') (same : first ++ rest = second ++ more) :
    first = second ∧ rest = more := by
  have equal : first = second := by
    rw [← takeWhile_opening plain opens, same, takeWhile_opening alsoPlain alsoOpens]
  exact ⟨equal, List.append_cancel_left (equal ▸ same)⟩

section

variable {κ : Type} [DecidableEq κ] {kind : Char → κ}

/-- What stands between the line of an entry and those after it. -/
def gapAfter (kind : Char → κ) (key : Char) : List (Char × String) → List Char
  | [] => []
  | next :: _ => if kind key = kind next.1 then ['\n'] else ['\n', '\n']

theorem not_mem_gapAfter (key : Char) (entries : List (Char × String)) :
    '[' ∉ gapAfter kind key entries := by
  cases entries with
  | nil => exact List.not_mem_nil
  | cons next rest =>
      rw [gapAfter]
      split <;> decide

theorem toList_spacedLines_cons (entry : Char × String) (rest : List (Char × String)) :
    (joinLines (spacedLines (fun entry => kind entry.1) entryLine (entry :: rest))).toList =
      '[' :: (shownKey entry.1 :: ']' :: ' ' :: (entry.2.toList ++ gapAfter kind entry.1 rest) ++
        (joinLines (spacedLines (fun entry => kind entry.1) entryLine rest)).toList) := by
  cases rest with
  | nil => simp [spacedLines, gapAfter, toList_joinLines, toList_entryLine]
  | cons next rest =>
      have more : spacedLines (fun entry => kind entry.1) entryLine (next :: rest) ≠ [] := by
        cases rest <;> simp [spacedLines]
      rw [spacedLines, gapAfter]
      split
      · rw [List.singleton_append, joinLines_cons more]
        simp [String.toList_append, toList_entryLine]
      · rw [List.cons_append, List.singleton_append, joinLines_cons (List.cons_ne_nil _ _),
          joinLines_cons more]
        simp [String.toList_append, toList_entryLine]

theorem opens_spacedLines (kind : Char → κ) (entries : List (Char × String)) :
    ∀ c ∈ (joinLines (spacedLines (fun entry => kind entry.1) entryLine entries)).toList.head?,
      c = '[' := by
  intro c member
  cases entries with
  | nil => cases member
  | cons entry rest =>
      rw [toList_spacedLines_cons] at member
      exact (Option.some.inj member).symm

/-- The lines of entries can be read in one way only. The induction is on the entries: the line of an
entry goes on up to the next opening bracket, and the keys around a gap say how wide it is. -/
theorem eq_of_spacedLines (kind : Char → κ) {first second : List (Char × String)}
    (legible : ∀ entry ∈ first, IsLegible entry) (alsoLegible : ∀ entry ∈ second, IsLegible entry)
    (same : joinLines (spacedLines (fun entry => kind entry.1) entryLine first) =
      joinLines (spacedLines (fun entry => kind entry.1) entryLine second)) : first = second := by
  have shown := congrArg String.toList same
  induction first generalizing second with
  | nil =>
      cases second with
      | nil => rfl
      | cons other others => rw [toList_spacedLines_cons] at shown; cases shown
  | cons entry rest ih =>
      cases second with
      | nil => rw [toList_spacedLines_cons] at shown; cases shown
      | cons other others =>
          obtain ⟨one, legible⟩ := List.forall_mem_cons.1 legible
          obtain ⟨two, alsoLegible⟩ := List.forall_mem_cons.1 alsoLegible
          rw [toList_spacedLines_cons, toList_spacedLines_cons, List.cons_inj_right] at shown
          have plain : ∀ {entry : Char × String} (rest), IsLegible entry →
              '[' ∉ shownKey entry.1 :: ']' :: ' ' :: (entry.2.toList ++ gapAfter kind entry.1 rest) := by
            intro entry rest legible
            have key := shownKey_ne_opening legible.1
            simp [key.symm, legible.2, not_mem_gapAfter]
          obtain ⟨lines, shown⟩ := cut_at_opening (plain rest one) (plain others two)
            (opens_spacedLines kind rest) (opens_spacedLines kind others) shown
          obtain rfl := ih legible alsoLegible (String.toList_inj.1 shown) shown
          injection lines with keys titles
          have sameKey := eq_of_shownKey_eq one.1 two.1 keys
          have sameTitle : entry.2 = other.2 := by simpa [sameKey, String.toList_inj] using titles
          rw [Prod.ext sameKey sameTitle]

end

/-- So can lines without gaps. -/
theorem eq_of_lines {first second : List (Char × String)} (legible : ∀ entry ∈ first, IsLegible entry)
    (alsoLegible : ∀ entry ∈ second, IsLegible entry)
    (same : joinLines (first.map entryLine) = joinLines (second.map entryLine)) : first = second := by
  have plain : ∀ entries : List (Char × String),
      spacedLines (fun _ => ()) entryLine entries = entries.map entryLine :=
    fun entries => spacedLines_alike fun _ _ => rfl
  rw [← plain first, ← plain second] at same
  exact eq_of_spacedLines (fun _ => ()) legible alsoLegible same

end Narrative
