/-
Module: Narrative.Proofs.World.Combinations
Purpose: Which combination two entities have. The combinations that the first declares with the second
  come before those that the second declares with the first; of either, the first that the test does
  not turn down decides. So whether there is one does not depend on the order of the two.
Main exports: World.Pairs, World.Barren, World.Meets, World.barren_or_meets,
  World.findCombination_of_meets, World.FindsCombinations, World.combinations_found
-/
import Narrative.Proofs.Outcome
import Narrative.World.Basic

namespace Narrative

/-- The path of a combination by its entity and its position there. -/
def NodePath.combination (owner position : Nat) : NodePath := ⟨owner, .combination position, []⟩

namespace World

/-- An entity declares a combination with another at a position: the target is the key of the other. An
empty key is none. -/
def Pairs (world : World) (owner other position : Nat) : Prop :=
  ∃ entity combination partner,
    world.entity? owner = some entity ∧ entity.combinations[position]? = some combination ∧
      world.entity? other = some partner ∧ partner.key? = some combination.target ∧
      combination.target ≠ ""

/-- The test turns down every combination that an entity declares with another. -/
def Barren (world : World) (test : NodePath → Except EvaluationError Bool) (owner other : Nat) :
    Prop :=
  ∀ position, world.Pairs owner other position → test (.combination owner position) = .ok false

/-- The first combination that an entity declares with another and that the test does not turn down,
with what the test says about it. -/
structure Meets (world : World) (test : NodePath → Except EvaluationError Bool)
    (owner other position : Nat) (answer : Except EvaluationError Bool) : Prop where
  declared : world.Pairs owner other position
  answered : test (.combination owner position) = answer
  stops : answer ≠ .ok false
  earlier : ∀ before, before < position → world.Pairs owner other before →
    test (.combination owner before) = .ok false

variable {world : World} {test : NodePath → Except EvaluationError Bool}
  {owner other position first second : Nat} {answer : Except EvaluationError Bool}

/-! ### What one entity declares -/

theorem mem_combinationsWith_positions {entity : Entity} {key : String} :
    position ∈ (entity.combinations.zipIdx.filter (·.1.target = key)).map (·.2) ↔
      ∃ combination, entity.combinations[position]? = some combination ∧ combination.target = key := by
  simp [List.mk_mem_zipIdx_iff_getElem?]

/-- The combinations that are searched are those that are declared, in the order of their
declaration. -/
theorem exists_positions (world : World) (owner other : Nat) :
    ∃ positions : List Nat, positions.Pairwise (· < ·) ∧
      (∀ position, position ∈ positions ↔ world.Pairs owner other position) ∧
      ∀ test, world.findDeclared test owner other =
        (positions.map (.combination owner)).findM? test := by
  unfold findDeclared
  cases partner_at : world.entity? other with
  | none => exact ⟨[], .nil, by simp [Pairs, partner_at], fun _ => rfl⟩
  | some partner =>
  cases keyed : partner.lookupKey? with
  | none =>
      refine ⟨[], .nil, fun position => ?_, fun _ => by simp [keyed, pure, Except.pure]⟩
      simp only [List.not_mem_nil, false_iff]
      rintro ⟨entity, combination, _, _, _, same, key, named⟩
      rw [partner_at] at same
      cases same
      simp [Entity.lookupKey?, key, named] at keyed
  | some key =>
  obtain ⟨key_eq, named⟩ := Option.filter_eq_some_iff.1 keyed
  have named : key ≠ "" := by simpa using named
  cases owner_at : world.entity? owner with
  | none => exact ⟨[], .nil, by simp [Pairs, owner_at], fun _ => by simp [combinationsWith, owner_at, keyed]⟩
  | some entity =>
  refine ⟨(entity.combinations.zipIdx.filter (·.1.target = key)).map (·.2), ?_, fun position => ?_,
    fun _ => by simp [combinationsWith, owner_at, keyed, NodePath.combination, Function.comp_def]⟩
  · have increasing : (entity.combinations.zipIdx.map (·.2)).Pairwise (· < ·) := by
      rw [List.zipIdx_map_snd]
      exact List.pairwise_lt_range'
    exact increasing.sublist (List.filter_sublist.map _)
  · rw [mem_combinationsWith_positions]
    constructor
    · rintro ⟨combination, there, rfl⟩
      exact ⟨entity, combination, partner, owner_at, there, partner_at, key_eq, named⟩
    · rintro ⟨_, combination, _, same, there, other_same, target, _⟩
      rw [owner_at] at same
      rw [partner_at] at other_same
      cases same
      cases other_same
      rw [key_eq] at target
      exact ⟨combination, there, (Option.some.inj target).symm⟩

namespace Meets

variable {earlier : Nat} {reply : Except EvaluationError Bool}

theorem not_barren (meets : world.Meets test owner other position answer) :
    ¬ world.Barren test owner other := fun barren =>
  meets.stops (meets.answered ▸ barren position meets.declared)

theorem le (meets : world.Meets test owner other position answer)
    (met : world.Meets test owner other earlier reply) : position ≤ earlier := by
  by_contra later
  have down := meets.earlier earlier (by omega) met.declared
  exact met.stops (met.answered ▸ down)

/-- There is at most one such combination. -/
theorem unique (meets : world.Meets test owner other position answer)
    (met : world.Meets test owner other earlier reply) : position = earlier ∧ answer = reply := by
  have same := Nat.le_antisymm (meets.le met) (met.le meets)
  subst same
  exact ⟨rfl, meets.answered.symm.trans met.answered⟩

end Meets

/-- The search among what one entity declares ends at the first combination that is not turned down, and
finds nothing if there is none. -/
theorem findDeclared_cases (world : World) (test : NodePath → Except EvaluationError Bool)
    (owner other : Nat) :
    (world.Barren test owner other ∧ world.findDeclared test owner other = .ok none) ∨
      ∃ position answer, world.Meets test owner other position answer ∧
        world.findDeclared test owner other =
          answer.map fun _ => some (.combination owner position) := by
  obtain ⟨positions, increasing, mem_iff, search⟩ := world.exists_positions owner other
  obtain all | ⟨before, path, after, split, down, stops⟩ :=
    findM?_cases test (positions.map (.combination owner))
  · have barren : world.Barren test owner other := fun position pairs =>
      all _ (List.mem_map_of_mem ((mem_iff position).2 pairs))
    refine .inl ⟨barren, ?_⟩
    have nothing := findM?_append all []
    rw [List.append_nil] at nothing
    rw [search, nothing]
    rfl
  · obtain ⟨earlier, rest, rfl, rfl, tail⟩ := List.map_eq_append_iff.1 split
    obtain ⟨position, later, rfl, rfl, rfl⟩ := List.map_eq_cons_iff.1 tail
    refine .inr ⟨position, _, ⟨(mem_iff position).1 (by simp), rfl, stops, ?_⟩, ?_⟩
    · intro other_position smaller pairs
      apply down
      apply List.mem_map_of_mem
      obtain there | here := List.mem_append.1 ((mem_iff other_position).2 pairs)
      · exact there
      · have above := (List.pairwise_append.1 increasing).2.1
        obtain same | behind := List.mem_cons.1 here
        · omega
        · have := (List.pairwise_cons.1 above).1 other_position behind
          omega
    · rw [search, split, findM?_of_first down stops]

theorem findDeclared_eq_none_iff :
    world.findDeclared test owner other = .ok none ↔ world.Barren test owner other := by
  obtain ⟨barren, nothing⟩ | ⟨position, answer, meets, found⟩ := world.findDeclared_cases test owner other
  · exact iff_of_true nothing barren
  · refine iff_of_false ?_ meets.not_barren
    rw [found]
    cases answer <;> simp [Except.map]

theorem findDeclared_eq_some_iff {path : NodePath} :
    world.findDeclared test owner other = .ok (some path) ↔
      ∃ position, world.Meets test owner other position (.ok true) ∧
        path = .combination owner position := by
  obtain ⟨barren, nothing⟩ | ⟨position, answer, meets, found⟩ := world.findDeclared_cases test owner other
  · rw [nothing]
    refine iff_of_false (by simp) ?_
    rintro ⟨_, meets, _⟩
    exact meets.not_barren barren
  · rw [found, map_eq_ok]
    constructor
    · rintro ⟨passes, rfl, same⟩
      cases passes with
      | true => exact ⟨position, meets, (Option.some.inj same).symm⟩
      | false => exact absurd rfl meets.stops
    · rintro ⟨_, met, rfl⟩
      obtain ⟨rfl, rfl⟩ := meets.unique met
      exact ⟨true, rfl, rfl⟩

theorem findDeclared_eq_error_iff {error : EvaluationError} :
    world.findDeclared test owner other = .error error ↔
      ∃ position, world.Meets test owner other position (.error error) := by
  obtain ⟨barren, nothing⟩ | ⟨position, answer, meets, found⟩ := world.findDeclared_cases test owner other
  · rw [nothing]
    refine iff_of_false (by simp) ?_
    rintro ⟨_, meets⟩
    exact meets.not_barren barren
  · rw [found, map_eq_error]
    constructor
    · rintro rfl
      exact ⟨position, meets⟩
    · rintro ⟨_, met⟩
      exact (meets.unique met).2

/-! ### Both entities -/

/-- If the first entity has nothing to offer, the second decides. -/
theorem findCombination_of_barren (barren : world.Barren test first second) :
    world.findCombination test first second = world.findDeclared test second first := by
  rw [findCombination, findDeclared_eq_none_iff.2 barren]
  rfl

/-- What the first entity has to offer comes first. -/
theorem findCombination_eq_some_iff {path : NodePath} :
    world.findCombination test first second = .ok (some path) ↔
      world.findDeclared test first second = .ok (some path) ∨
        world.Barren test first second ∧ world.findDeclared test second first = .ok (some path) := by
  rw [← findDeclared_eq_none_iff, findCombination, bind_eq_ok]
  constructor
  · rintro ⟨own, search, later⟩
    cases own with
    | none => exact .inr ⟨search, later⟩
    | some found => exact .inl (later ▸ search)
  · rintro (search | ⟨search, later⟩)
    · exact ⟨some path, search, rfl⟩
    · exact ⟨none, search, later⟩

theorem findCombination_eq_none_iff :
    world.findCombination test first second = .ok none ↔
      world.Barren test first second ∧ world.Barren test second first := by
  rw [← findDeclared_eq_none_iff, ← findDeclared_eq_none_iff, findCombination, bind_eq_ok]
  constructor
  · rintro ⟨own, search, later⟩
    cases own with
    | none => exact ⟨search, later⟩
    | some found => cases later
  · rintro ⟨search, later⟩
    exact ⟨none, search, later⟩

theorem findCombination_eq_error_iff {error : EvaluationError} :
    world.findCombination test first second = .error error ↔
      world.findDeclared test first second = .error error ∨
        world.Barren test first second ∧ world.findDeclared test second first = .error error := by
  rw [← findDeclared_eq_none_iff, findCombination, bind_eq_error]
  constructor
  · rintro (search | ⟨own, search, later⟩)
    · exact .inl search
    · cases own with
      | none => exact .inr ⟨search, later⟩
      | some found => cases later
  · rintro (search | ⟨search, later⟩)
    · exact .inl search
    · exact .inr ⟨none, search, later⟩

/-- If only the first entity has anything to offer, the order does not matter. -/
theorem findCombination_comm_of_barren (barren : world.Barren test second first) :
    world.findCombination test first second = world.findCombination test second first := by
  rw [findCombination_of_barren barren, findCombination]
  cases world.findDeclared test first second with
  | error error => rfl
  | ok own =>
      cases own with
      | none => exact findDeclared_eq_none_iff.2 barren
      | some found => rfl

/-- With a test that does not fail, the first available combination is not behind any other. -/
theorem exists_meets (total : ∀ path, ∃ passes, test path = .ok passes)
    (pairs : world.Pairs owner other position) (opens : test (.combination owner position) = .ok true) :
    ∃ earliest, world.Meets test owner other earliest (.ok true) := by
  obtain ⟨barren, _⟩ | ⟨earliest, answer, meets, _⟩ := world.findDeclared_cases test owner other
  · have down := barren position pairs
    rw [opens] at down
    cases down
  · obtain ⟨passes, answered⟩ := total (.combination owner earliest)
    cases passes with
    | true =>
        rw [meets.answered] at answered
        exact ⟨earliest, answered ▸ meets⟩
    | false => exact absurd (meets.answered.symm.trans answered) meets.stops

/-- A test that does not fail does not make the search fail. -/
theorem exists_findCombination (total : ∀ path, ∃ passes, test path = .ok passes)
    (first second : Nat) : ∃ result, world.findCombination test first second = .ok result := by
  have settled {owner other : Nat} {error : EvaluationError} :
      world.findDeclared test owner other ≠ .error error := by
    intro failed
    obtain ⟨position, meets⟩ := findDeclared_eq_error_iff.1 failed
    obtain ⟨passes, answered⟩ := total (.combination owner position)
    cases meets.answered.symm.trans answered
  cases search : world.findCombination test first second with
  | ok result => exact ⟨result, rfl⟩
  | error error =>
      obtain own | ⟨_, reversed⟩ := findCombination_eq_error_iff.1 search
      · exact absurd own settled
      · exact absurd reversed settled

/-- A search for the combination of two entities finds what it should, with a test that decides what is
available. -/
structure FindsCombinations (world : World) (test : NodePath → Except EvaluationError Bool)
    (find : Nat → Nat → Except EvaluationError (Option NodePath)) : Prop where
  /-- What is found is the first available combination that the first entity declares with the second,
  or else the first that the second declares with the first. -/
  found : ∀ first second path, find first second = .ok (some path) ↔
    (∃ position, world.Meets test first second position (.ok true) ∧
        path = .combination first position) ∨
      world.Barren test first second ∧
        ∃ position, world.Meets test second first position (.ok true) ∧
          path = .combination second position
  /-- Nothing is found just if none is available on either side. -/
  nothing : ∀ first second, find first second = .ok none ↔
    world.Barren test first second ∧ world.Barren test second first
  /-- It fails just if the test does, where it would decide. -/
  fails : ∀ first second error, find first second = .error error ↔
    (∃ position, world.Meets test first second position (.error error)) ∨
      world.Barren test first second ∧
        ∃ position, world.Meets test second first position (.error error)
  /-- A test that does not fail gives an answer. -/
  answers : (∀ path, ∃ passes, test path = .ok passes) →
    ∀ first second, ∃ result, find first second = .ok result
  /-- If nothing is found, nothing is found the other way round. -/
  symmetric : ∀ first second, find first second = .ok none ↔ find second first = .ok none
  /-- If only one of the two declares what the test does not turn down, the order does not matter. -/
  agrees : ∀ first second, world.Barren test second first → find first second = find second first
  /-- So if only one of the two declares available combinations, its first is found in both orders. -/
  shared : (∀ path, ∃ passes, test path = .ok passes) → ∀ first second position,
    world.Pairs first second position → test (.combination first position) = .ok true →
      world.Barren test second first →
        ∃ earliest, world.Meets test first second earliest (.ok true) ∧
          find first second = .ok (some (.combination first earliest)) ∧
          find second first = .ok (some (.combination first earliest))

theorem finds_findCombination (world : World) (test : NodePath → Except EvaluationError Bool) :
    world.FindsCombinations test (world.findCombination test) where
  found first second path := by
    rw [findCombination_eq_some_iff, findDeclared_eq_some_iff, findDeclared_eq_some_iff]
  nothing first second := findCombination_eq_none_iff
  fails first second error := by
    rw [findCombination_eq_error_iff, findDeclared_eq_error_iff, findDeclared_eq_error_iff]
  answers total := exists_findCombination total
  symmetric first second := by
    rw [findCombination_eq_none_iff, findCombination_eq_none_iff, and_comm]
  agrees first second barren := findCombination_comm_of_barren barren
  shared := by
    intro total first second position pairs opens barren
    obtain ⟨earliest, meets⟩ := exists_meets total pairs opens
    have own := findDeclared_eq_some_iff.2 ⟨earliest, meets, rfl⟩
    have ordered := findCombination_eq_some_iff.2 (.inl own)
    exact ⟨earliest, meets, ordered, findCombination_comm_of_barren barren ▸ ordered⟩

/-- The combination of two entities is found as it should be, whatever the test and in every world, also
of an entity with itself; and so is the one that may be told. -/
theorem combinations_found (world : World) (test : NodePath → Except EvaluationError Bool) :
    world.FindsCombinations test (world.findCombination test) ∧
      world.FindsCombinations world.isAvailable world.combinationOf := by
  have told : world.combinationOf = world.findCombination world.isAvailable := rfl
  rw [told]
  exact ⟨world.finds_findCombination test, world.finds_findCombination world.isAvailable⟩

/-- Matches, a candle and a draught. The first use of the matches with the candle is spent, the draught
has an empty key. -/
def matchbox : World :=
  let spent : Node := ⟨{ count := .number 1, limit := .number 1 }, []⟩
  let fresh : Node := ⟨{}, []⟩
  { entities := [
      ⟨"Matches", some "matches", .empty, fresh, [⟨"candle", spent⟩, ⟨"candle", fresh⟩, ⟨"", fresh⟩], none⟩,
      ⟨"Candle", some "candle", .empty, fresh, [], none⟩,
      ⟨"Draught", some "", .empty, fresh, [⟨"", fresh⟩], none⟩]
    player := .empty
    inventory := .empty
    focus := 0 }

/-- The matches light the candle in both orders, by their second use; with the draught, whose key is no
target, they do nothing, nor does the draught with itself. -/
theorem combinations_found_matchbox :
    matchbox.combinationOf 0 1 = .ok (some (.combination 0 1)) ∧
      matchbox.combinationOf 1 0 = .ok (some (.combination 0 1)) ∧
      matchbox.combinationOf 0 2 = .ok none ∧ matchbox.combinationOf 2 0 = .ok none ∧
      matchbox.combinationOf 2 2 = .ok none := by
  have finds := (combinations_found matchbox matchbox.isAvailable).2
  have lit : matchbox.combinationOf 0 1 = .ok (some (.combination 0 1)) := by decide +kernel
  have still : matchbox.combinationOf 0 2 = .ok none := by decide +kernel
  have bare : matchbox.Barren matchbox.isAvailable 1 0 := by
    rintro position ⟨entity, combination, _, candle, there, _⟩
    cases candle
    cases there
  refine ⟨lit, (finds.agrees 0 1 bare) ▸ lit, still, (finds.symmetric 0 2).1 still, ?_⟩
  decide +kernel

end World

end Narrative
