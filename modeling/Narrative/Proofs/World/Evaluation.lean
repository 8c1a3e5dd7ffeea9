/-
Module: Narrative.Proofs.World.Evaluation
Purpose: What can be asked of a world that follows a plan: evaluations, and the lists of what is
  available. They lead to worlds that follow it too, what they give is in the plan, and their errors
  are explained by it.
Main exports: World.Follows.evaluate, World.Follows.evaluate_error, World.isOpen,
  World.availableAmong_error, World.availableAmong_eq_filter, World.combinationOf_error
-/
import Narrative.Proofs.World.Follows
import Narrative.Proofs.World.Telling

namespace Narrative.World

variable {plan world : World} {error : EvaluationError}

/-! ### Evaluation -/

namespace Follows

theorem collect (follows : Follows plan world) (path : NodePath) (counts : Bool) :
    Follows plan (world.collect path counts).1 := by
  constructor
  · rw [plan_collect, follows.plan_eq]
  · have same : (world.collect path counts).1.focus = world.focus := by
      unfold World.collect
      split <;> rfl
    rw [same]
    exact follows.focus_isLocation

theorem applyImpacts_error {source : Nat} {impacts : List Impact} (follows : Follows plan world)
    (failed : (world.applyImpacts source impacts).2 = .error error) :
    error.isTold = true ∧ ∃ impact ∈ impacts, plan.checkImpact impact ≠ none := by
  unfold World.applyImpacts at failed
  induction impacts generalizing world with
  | nil => cases failed
  | cons impact rest ih =>
      simp only [World.applyAllWith] at failed
      split at failed
      next error stopped =>
        cases failed
        obtain ⟨told, wrong⟩ := applyWith_error stopped
        rw [← checkImpact_plan, follows.plan_eq] at wrong
        exact ⟨told, impact, List.mem_cons_self, wrong⟩
      next changed applied =>
        have kept := follows.applyImpact applied
        obtain ⟨told, impact, member, wrong⟩ := ih kept failed
        exact ⟨told, impact, List.mem_cons_of_mem _ member, wrong⟩

theorem evaluate (follows : Follows plan world) (path : NodePath) (counts : Bool) :
    Follows plan (world.evaluate path counts).1 :=
  (stable plan).evaluate (follows.collect path counts)

theorem evaluate_error {path : NodePath} {counts : Bool} (follows : Follows plan world)
    (failed : (world.evaluate path counts).2 = .error error) :
    Explains plan (world.evaluate path counts).1 error := by
  have collected := follows.collect path counts
  unfold World.evaluate at failed ⊢
  dsimp only at failed ⊢
  split at failed
  next after fault stopped =>
    cases failed
    have outcome : (world.collect path counts).2 = .error error := by rw [stopped]
    have reason := collect_error outcome
    rw [stopped] at reason
    rcases reason with ⟨told, unresolved⟩ | overtold
    · rw [← resolved_plan, follows.plan_eq] at unresolved
      exact .inl ⟨told, unresolved⟩
    · exact .inr overtold
  next after harvest told =>
    rw [told] at collected
    have outcome : (world.collect path counts).2 = .ok harvest := by rw [told]
    have brought := impacts_of_collect outcome
    obtain ⟨told, impact, member, wrong⟩ := collected.applyImpacts_error (map_eq_error.1 failed)
    refine .inl ⟨told, ?_⟩
    intro resolved
    obtain ⟨path, node, found, impacts⟩ := brought impact member
    rw [← follows.plan_eq, resolved_plan] at resolved
    rw [← follows.plan_eq, checkImpact_plan] at wrong
    exact wrong ((resolved path node found).impacts impact impacts)

end Follows

/-! ### Availability -/

/-- What may be told cannot be listed if it cannot be said of one entry. -/
theorem exists_of_availableAmong_error {α : Type} {path : α → NodePath} {entries : List α}
    (failed : world.availableAmong path entries = .error error) :
    ∃ entry ∈ entries, world.isAvailable (path entry) = .error error := by
  induction entries with
  | nil => cases failed
  | cons one others ih =>
      rcases bind_eq_error.1 failed with doubtful | ⟨available, _, later⟩
      · exact ⟨one, List.mem_cons_self, doubtful⟩
      · rcases bind_eq_error.1 later with doubtful | ⟨rest, _, nothing⟩
        · obtain ⟨entry, member, doubtful⟩ := ih doubtful
          exact ⟨entry, List.mem_cons_of_mem one member, doubtful⟩
        · cases nothing

theorem availableAmong_error {α : Type} {path : α → NodePath} {entries : List α}
    (failed : world.availableAmong path entries = .error error) :
    error.isTold = true ∧ ¬ world.Resolved := by
  obtain ⟨entry, _, doubtful⟩ := exists_of_availableAmong_error failed
  exact isAvailable_error doubtful

/-- Whether the node at a path may be told. In doubt it may not. -/
def isOpen (world : World) (path : NodePath) : Bool :=
  match world.isAvailable path with
  | .ok available => available
  | .error _ => false

theorem isOpen_iff {path : NodePath} :
    world.isOpen path = true ↔ world.isAvailable path = .ok true := by
  unfold isOpen
  cases world.isAvailable path <;> simp

/-- If an answer is given, it is all that may be told. -/
theorem availableAmong_eq_filter {α : Type} {path : α → NodePath} {entries found : List α}
    (asked : world.availableAmong path entries = .ok found) :
    found = entries.filter (world.isOpen <| path ·) := by
  induction entries generalizing found with
  | nil =>
      cases asked
      rfl
  | cons one others ih =>
      obtain ⟨available, answered, later⟩ := bind_eq_ok.1 asked
      obtain ⟨rest, among, same⟩ := bind_eq_ok.1 later
      cases same
      have opened : world.isOpen (path one) = available := by rw [isOpen, answered]
      rw [List.filter_cons, opened, ← ih among]

theorem mem_of_availableAmong {α : Type} {path : α → NodePath} {entries found : List α}
    (asked : world.availableAmong path entries = .ok found) : ∀ one ∈ found, one ∈ entries := by
  rw [availableAmong_eq_filter asked]
  exact fun one member => (List.mem_filter.1 member).1

/-- An available interaction is one that there is. -/
theorem node?_of_availableInteractions {location position : Nat} {found : List Nat}
    (asked : world.availableInteractions location = .ok found) (member : position ∈ found) :
    (world.node? ⟨location, .interaction position, []⟩).isSome := by
  have within := List.mem_range.1 (mem_of_availableAmong asked position member)
  cases known : world.entity? location with
  | none => simp [known] at within
  | some entity =>
      simp only [known, Option.map_some, Option.getD_some] at within
      simp [node?, known, Entity.node?, Node.descriptor?, within]

/-- An available item is an item. -/
theorem entity?_of_availableItems {number : Nat} {found : List Nat}
    (asked : world.availableItems = .ok found) (member : number ∈ found) :
    (world.entity? number).any (! ·.isLocation) := by
  obtain ⟨key, _, named⟩ := List.mem_filterMap.1 (mem_of_availableAmong asked number member)
  exact (Option.filter_eq_some_iff.1 named).2

/-! ### Combinations -/

theorem findM?_isAvailable_error {paths : List NodePath}
    (failed : paths.findM? world.isAvailable = .error error) :
    error.isTold = true ∧ ¬ world.Resolved := by
  induction paths with
  | nil => cases failed
  | cons path paths ih =>
      rcases bind_eq_error.1 failed with doubtful | ⟨available, _, later⟩
      · exact isAvailable_error doubtful
      · cases available with
        | false => exact ih later
        | true => cases later

theorem combinationOf_error {first second : Nat}
    (failed : world.combinationOf first second = .error error) :
    error.isTold = true ∧ ¬ world.Resolved := by
  have declared {owner other : Nat} (failed : world.declaredCombination owner other = .error error) :
      error.isTold = true ∧ ¬ world.Resolved := by
    unfold declaredCombination findDeclared at failed
    split at failed
    · exact findM?_isAvailable_error failed
    · cases failed
  rcases bind_eq_error.1 failed with doubtful | ⟨result, _, later⟩
  · exact declared doubtful
  · cases result with
    | none => exact declared later
    | some path => cases later

end Narrative.World
