/-
Module: Narrative.Proofs.Outcome
Purpose: Inversion of steps that may fail: what is known of the parts when the outcome of the whole is.
Main exports: bind_eq_ok, bind_eq_error, map_eq_ok, map_eq_error, mapError_eq_ok, mapError_eq_error,
  toOption_eq_of_ok_iff, mapM_eq_ok, mapM_eq_error, exists_of_mapM, forall_of_mapM, forall₂_of_mapM,
  map_of_mapM, exists_of_mapM_eq_none, exists_of_mapM_eq_some, findM?_append, findM?_of_first,
  findM?_cases, run_run_bind
-/
import Mathlib.Data.List.Forall2

namespace Narrative

variable {ε α β : Type} {first : Except ε α} {next : α → Except ε β}

theorem bind_eq_ok {result : β} :
    first >>= next = .ok result ↔ ∃ value, first = .ok value ∧ next value = .ok result := by
  cases first with
  | error error => simp [bind, Except.bind]
  | ok value => simp [bind, Except.bind]

theorem bind_eq_error {error : ε} :
    first >>= next = .error error ↔
      first = .error error ∨ ∃ value, first = .ok value ∧ next value = .error error := by
  cases first with
  | error error => simp [bind, Except.bind]
  | ok value => simp [bind, Except.bind]

theorem map_eq_ok {change : α → β} {result : β} :
    first.map change = .ok result ↔ ∃ value, first = .ok value ∧ change value = result := by
  cases first with
  | error error => simp [Except.map]
  | ok value => simp [Except.map]

theorem map_eq_error {change : α → β} {error : ε} :
    first.map change = .error error ↔ first = .error error := by
  cases first with
  | error error => simp [Except.map]
  | ok value => simp [Except.map]

theorem mapError_eq_ok {δ : Type} {change : ε → δ} {value : α} :
    first.mapError change = .ok value ↔ first = .ok value := by
  cases first with
  | error error => simp [Except.mapError]
  | ok value => simp [Except.mapError]

theorem mapError_eq_error {δ : Type} {change : ε → δ} {error : δ} :
    first.mapError change = .error error ↔ ∃ cause, first = .error cause ∧ change cause = error := by
  cases first with
  | error error => simp [Except.mapError]
  | ok value => simp [Except.mapError]

theorem eq_ok_of_toOption {value : α} (there : first.toOption = some value) : first = .ok value := by
  cases first with
  | error error => cases there
  | ok other =>
      cases there
      rfl

/-- Two outcomes with the same results are the same but for the error. -/
theorem toOption_eq_of_ok_iff {one other : Except ε α}
    (same : ∀ value, one = .ok value ↔ other = .ok value) : one.toOption = other.toOption := by
  cases one with
  | ok value => rw [(same value).1 rfl]
  | error error =>
      cases other with
      | ok value => cases (same value).2 rfl
      | error => rfl

/-- The results of a list are those of its entries, in their order. -/
theorem mapM_eq_ok {step : α → Except ε β} {entries : List α} {results : List β} :
    entries.mapM step = .ok results ↔ entries.map step = results.map .ok := by
  induction entries generalizing results with
  | nil => cases results <;> simp [pure, Except.pure]
  | cons entry rest ih =>
      rw [List.mapM_cons, bind_eq_ok, List.map_cons]
      constructor
      · rintro ⟨first, done, others⟩
        obtain ⟨later, rest_done, same⟩ := bind_eq_ok.1 others
        cases same
        rw [done, ih.1 rest_done, List.map_cons]
      · intro each
        obtain ⟨first, later, rfl, done, others⟩ := List.map_eq_cons_iff.1 each.symm
        exact ⟨first, done.symm, bind_eq_ok.2 ⟨later, ih.2 others.symm, rfl⟩⟩

/-- A list fails as its first entry that does. -/
theorem mapM_eq_error {step : α → Except ε β} {entries : List α} {error : ε} :
    entries.mapM step = .error error ↔
      ∃ before entry after, entries = before ++ entry :: after ∧
        (∀ earlier ∈ before, ∃ result, step earlier = .ok result) ∧ step entry = .error error := by
  induction entries with
  | nil => simp [pure, Except.pure]
  | cons entry rest ih =>
      rw [List.mapM_cons, bind_eq_error]
      constructor
      · rintro (failed | ⟨first, done, others⟩)
        · exact ⟨[], entry, rest, rfl, List.forall_mem_nil _, failed⟩
        · obtain later | ⟨_, _, impossible⟩ := bind_eq_error.1 others
          · obtain ⟨before, worst, after, rfl, fine, failed⟩ := ih.1 later
            exact ⟨entry :: before, worst, after, rfl, List.forall_mem_cons.2 ⟨⟨first, done⟩, fine⟩, failed⟩
          · cases impossible
      · rintro ⟨before, worst, after, split, fine, failed⟩
        obtain ⟨rfl, same⟩ | ⟨prior, rfl, same⟩ := List.cons_eq_append_iff.1 split
        · cases same
          exact .inl failed
        · obtain ⟨⟨first, done⟩, fine⟩ := List.forall_mem_cons.1 fine
          exact .inr ⟨first, done, bind_eq_error.2 (.inl (ih.2 ⟨prior, worst, after, same, fine, failed⟩))⟩

/-- Every result of a list is that of an entry. -/
theorem exists_of_mapM {step : α → Except ε β} {entries : List α} {results : List β}
    (all : entries.mapM step = .ok results) :
    ∀ result ∈ results, ∃ entry ∈ entries, step entry = .ok result := by
  intro result member
  rw [← List.mem_map, mapM_eq_ok.1 all]
  exact List.mem_map_of_mem member

/-- Every entry of a list has a result among those of the list. -/
theorem exists_result_of_mapM {step : α → Except ε β} {entries : List α} {results : List β}
    (all : entries.mapM step = .ok results) :
    ∀ entry ∈ entries, ∃ result ∈ results, step entry = .ok result := by
  intro entry member
  have among : step entry ∈ results.map .ok := mapM_eq_ok.1 all ▸ List.mem_map_of_mem member
  obtain ⟨result, listed, same⟩ := List.mem_map.1 among
  exact ⟨result, listed, same.symm⟩

/-- What every result has to do with its entry, the results of a list have to do with the entries. -/
theorem forall₂_of_mapM {step : α → Except ε β} {Related : α → β → Prop}
    (each : ∀ entry result, step entry = .ok result → Related entry result) {entries : List α}
    {results : List β} (all : entries.mapM step = .ok results) :
    List.Forall₂ Related entries results := by
  have steps : List.Forall₂ Eq (entries.map step) (results.map .ok) := by
    rw [mapM_eq_ok.1 all, List.forall₂_eq_eq_eq]
  rw [List.forall₂_map_left_iff, List.forall₂_map_right_iff] at steps
  exact steps.imp each

/-- What a result has from its entry, the results of a list have from the entries. -/
theorem map_of_mapM {γ : Type} {step : α → Except ε β} {given : α → γ} {kept : β → γ}
    (each : ∀ entry result, step entry = .ok result → kept result = given entry) {entries : List α}
    {results : List β} (all : entries.mapM step = .ok results) :
    results.map kept = entries.map given := by
  have same : List.Forall₂ Eq (entries.map given) (results.map kept) := by
    rw [List.forall₂_map_left_iff, List.forall₂_map_right_iff]
    exact forall₂_of_mapM (fun entry result done => (each entry result done).symm) all
  rw [List.forall₂_eq_eq_eq] at same
  exact same.symm

/-- What holds of every single result holds of all results of a list. -/
theorem forall_of_mapM {step : α → Except ε β} {Good : β → Prop}
    (each : ∀ entry result, step entry = .ok result → Good result) {entries : List α}
    {results : List β} (all : entries.mapM step = .ok results) : ∀ result ∈ results, Good result := by
  intro result member
  obtain ⟨entry, _, made⟩ := exists_of_mapM all result member
  exact each entry result made

/-- A list has no results if an entry has none. -/
theorem exists_of_mapM_eq_none {step : α → Option β} {entries : List α}
    (failed : entries.mapM step = none) : ∃ entry ∈ entries, step entry = none := by
  induction entries with
  | nil => cases failed
  | cons entry rest ih =>
      cases first : step entry with
      | none => exact ⟨entry, List.mem_cons_self, first⟩
      | some value =>
          rw [List.mapM_cons, first] at failed
          cases others : rest.mapM step with
          | none =>
              obtain ⟨later, member, none⟩ := ih others
              exact ⟨later, List.mem_cons_of_mem _ member, none⟩
          | some values => simp [others] at failed

/-- Every result of a list is that of an entry, if all entries have one. -/
theorem exists_of_mapM_eq_some {step : α → Option β} {entries : List α}
    {results : List β} (all : entries.mapM step = some results) :
    ∀ result ∈ results, ∃ entry ∈ entries, step entry = some result := by
  induction entries generalizing results with
  | nil =>
      cases all
      exact List.forall_mem_nil _
  | cons entry rest ih =>
      rw [List.mapM_cons] at all
      obtain ⟨value, first, others⟩ := Option.bind_eq_some_iff.1 all
      obtain ⟨values, later, same⟩ := Option.bind_eq_some_iff.1 others
      cases same
      refine List.forall_mem_cons.2 ⟨⟨entry, List.mem_cons_self, first⟩, fun result member => ?_⟩
      obtain ⟨other, among, made⟩ := ih later result member
      exact ⟨other, List.mem_cons_of_mem _ among, made⟩

/-- A search goes past the entries that are turned down. -/
theorem findM?_append {test : α → Except ε Bool} {before : List α}
    (down : ∀ entry ∈ before, test entry = .ok false) (rest : List α) :
    (before ++ rest).findM? test = rest.findM? test := by
  induction before with
  | nil => rfl
  | cons entry others ih =>
      obtain ⟨first, later⟩ := List.forall_mem_cons.1 down
      rw [List.cons_append, List.findM?, first]
      exact ih later

/-- The first entry that is not turned down decides a search, also if its test fails. -/
theorem findM?_of_first {test : α → Except ε Bool} {before after : List α} {entry : α}
    (down : ∀ earlier ∈ before, test earlier = .ok false) (stops : test entry ≠ .ok false) :
    (before ++ entry :: after).findM? test = (test entry).map fun _ => some entry := by
  rw [findM?_append down, List.findM?]
  cases answer : test entry with
  | error error => rfl
  | ok passes =>
      cases passes with
      | true => rfl
      | false => exact absurd answer stops

/-- Either all entries are turned down, or there is a first that is not. -/
theorem findM?_cases (test : α → Except ε Bool) (entries : List α) :
    (∀ entry ∈ entries, test entry = .ok false) ∨
      ∃ before entry after, entries = before ++ entry :: after ∧
        (∀ earlier ∈ before, test earlier = .ok false) ∧ test entry ≠ .ok false := by
  induction entries with
  | nil => exact .inl (List.forall_mem_nil _)
  | cons entry rest ih =>
      by_cases first : test entry = .ok false
      · obtain all | ⟨before, later, after, rfl, down, stops⟩ := ih
        · exact .inl (List.forall_mem_cons.2 ⟨first, all⟩)
        · exact .inr ⟨entry :: before, later, after, rfl, List.forall_mem_cons.2 ⟨first, down⟩, stops⟩
      · exact .inr ⟨[], entry, rest, rfl, List.forall_mem_nil _, first⟩

/-- An action on a state that may fail, and then another: if the first fails, the state that it reached
is the last. -/
theorem run_run_bind {ε σ α β : Type} (first : ExceptT ε (StateM σ) α)
    (next : α → ExceptT ε (StateM σ) β) (state : σ) :
    (first >>= next : ExceptT ε (StateM σ) β).run.run state =
      match first.run.run state with
      | (.ok value, after) => (next value).run.run after
      | (.error error, after) => (.error error, after) := by
  unfold ExceptT.run StateT.run
  show (StateT.bind first (ExceptT.bindCont next)) state = _
  unfold StateT.bind
  cases ended : first state with
  | mk outcome after =>
      cases outcome <;> rfl

end Narrative
