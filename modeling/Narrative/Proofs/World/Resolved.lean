/-
Module: Narrative.Proofs.World.Resolved
Purpose: Worlds that refer only to what they have. The search for issues sees every reference that
  a telling may ask for and every impact that it may apply, and an error that is told to the player
  can only come from one that it reports.
Main exports: World.Resolved, World.resolved_of_issues_eq_nil, World.resolved_plan,
  World.hasFact_error, World.applyWith_error, World.isAvailable_error
-/
import Narrative.Proofs.Outcome
import Narrative.Proofs.World.Plan
import Narrative.Proofs.World.Site

namespace Narrative

/-- Nothing is wrong with what the passage refers to. -/
structure Passage.Resolved (world : World) (passage : Passage) : Prop where
  requirement : ∀ requirement ∈ passage.requirement?, ∀ reference ∈ requirement.references,
    world.checkReference reference = none
  impacts : ∀ impact ∈ passage.impacts, world.checkImpact impact = none

namespace World

/-- Nothing is wrong with what the passages of the world refer to. -/
def Resolved (world : World) : Prop :=
  ∀ path node, world.node? path = some node → node.passage.Resolved world

theorem resolved_of_passageIssues {world : World} {label : String} {passage : Passage}
    (free : world.passageIssues label passage = []) : passage.Resolved world := by
  obtain ⟨required, impacts⟩ := List.append_eq_nil_iff.1 free
  constructor
  · intro requirement present reference member
    rw [Option.mem_def] at present
    simp only [present, Option.map_some, Option.getD_some, List.filterMap_eq_nil_iff] at required
    simpa using required reference member
  · intro impact member
    simpa using List.filterMap_eq_nil_iff.1 impacts impact member

/-- A world without issues is resolved: its sites are all that there is to be told. -/
theorem resolved_of_issues_eq_nil {world : World} (free : world.issues = []) : world.Resolved := by
  intro path node found
  obtain ⟨site, visited, _, told⟩ := exists_site found
  have here := List.flatMap_eq_nil_iff.1 (List.append_eq_nil_iff.1 free).1 site visited
  rw [← told]
  exact resolved_of_passageIssues (List.append_eq_nil_iff.1 here).1

/-! ### The plan decides -/

theorem passage_resolved_plan (world : World) (passage : Passage) :
    passage.plan.Resolved world.plan ↔ passage.Resolved world := by
  constructor
  · intro resolved
    constructor
    · intro requirement present reference member
      rw [← checkReference_plan]
      exact resolved.requirement requirement present reference member
    · intro impact member
      rw [← checkImpact_plan]
      exact resolved.impacts impact member
  · intro resolved
    constructor
    · intro requirement present reference member
      rw [checkReference_plan]
      exact resolved.requirement requirement present reference member
    · intro impact member
      rw [checkImpact_plan]
      exact resolved.impacts impact member

@[simp] theorem resolved_plan (world : World) : world.plan.Resolved ↔ world.Resolved := by
  constructor
  · intro resolved path node found
    have planned := resolved path node.plan (by simp [found])
    rwa [Node.passage_plan, passage_resolved_plan] at planned
  · intro resolved path node planned
    rw [node?_plan] at planned
    obtain ⟨inner, found, rfl⟩ := Option.map_eq_some_iff.1 planned
    rw [Node.passage_plan, passage_resolved_plan]
    exact resolved path inner found

end World

/-! ### Errors of requirements -/

theorem Formula.evaluate_error {ε : Type} {ask : Reference → Except ε Bool} {formula : Formula}
    {error : ε} (failed : formula.evaluate ask = .error error) :
    ∃ reference ∈ formula.references, ask reference = .error error := by
  induction formula with
  | fact reference => exact ⟨reference, List.mem_singleton_self _, failed⟩
  | not operand ih =>
      rcases bind_eq_error.1 failed with inner | ⟨value, _, nothing⟩
      · exact ih inner
      · cases nothing
  | and left right ihLeft ihRight | or left right ihLeft ihRight =>
      rcases bind_eq_error.1 failed with inner | ⟨value, _, others⟩
      · obtain ⟨reference, member, asked⟩ := ihLeft inner
        exact ⟨reference, List.mem_append_left _ member, asked⟩
      · rcases bind_eq_error.1 others with inner | ⟨value, _, nothing⟩
        · obtain ⟨reference, member, asked⟩ := ihRight inner
          exact ⟨reference, List.mem_append_right _ member, asked⟩
        · cases nothing

/-- Whether a passage may be told is in doubt only if one of its references is. -/
theorem Passage.isAvailable_error {ε : Type} {has : Reference → Except ε Bool} {passage : Passage}
    {error : ε} (failed : passage.isAvailable has = .error error) :
    ∃ requirement ∈ passage.requirement?, ∃ reference ∈ requirement.references,
      has reference = .error error := by
  unfold isAvailable at failed
  split at failed
  · cases failed
  · split at failed
    next => cases failed
    next requirement present =>
      exact ⟨requirement, present, Formula.evaluate_error failed⟩

namespace World

variable {world : World} {source : Nat} {reference : Reference} {error : EvaluationError}

theorem holderOf_error (failed : world.holderOf source reference = .error error) :
    error.isTold = true ∧ world.checkReference reference ≠ none := by
  cases reference with
  | own | player | inventory => cases failed
  | keyed element property =>
      simp only [holderOf, require] at failed
      cases found : world.resolve? element with
      | some number => simp [found, Functor.map, Except.map] at failed
      | none =>
          simp only [found, Functor.map, Except.map] at failed
          cases failed
          exact ⟨rfl, by simp [checkReference, found]⟩

theorem hasFact_error (failed : world.hasFact source reference = .error error) :
    error.isTold = true ∧ world.checkReference reference ≠ none := by
  rcases bind_eq_error.1 failed with unheld | ⟨holder, _, nothing⟩
  · exact holderOf_error unheld
  · cases nothing

/-- A node whose requirement cannot be decided refers to what the world has not. -/
theorem isAvailable_error {path : NodePath} (failed : world.isAvailable path = .error error) :
    error.isTold = true ∧ ¬ world.Resolved := by
  unfold isAvailable at failed
  split at failed
  · cases failed
  · split at failed
    next => cases failed
    next node found =>
      obtain ⟨requirement, present, reference, member, asked⟩ := Passage.isAvailable_error failed
      obtain ⟨told, wrong⟩ := hasFact_error asked
      refine ⟨told, ?_⟩
      intro resolved
      exact wrong ((resolved path node found).requirement requirement present reference member)

/-! ### Errors of impacts -/

theorem checkImpact_event {problem : Problem} (wrong : world.checkReference reference = some problem) :
    world.checkImpact (.event reference) ≠ none := by
  cases reference <;> simp [checkImpact, wrong]

/-- An impact that fails is one that the search for issues reports. -/
theorem applyWith_error {emit : Event → World → World} {impact : Impact}
    (failed : world.applyWith emit source impact = .error error) :
    error.isTold = true ∧ world.checkImpact impact ≠ none := by
  cases impact with
  | manipulate manipulation reference =>
      rcases bind_eq_error.1 failed with unheld | ⟨holder, _, nothing⟩
      · exact holderOf_error unheld
      · cases nothing
  | focus key =>
      simp only [applyWith] at failed
      split at failed
      next => cases failed
      next missing =>
        cases failed
        exact ⟨rfl, by simp [checkImpact, missing]⟩
  | event reference =>
      rcases bind_eq_error.1 failed with unheld | ⟨holder, held, unsent⟩
      · obtain ⟨told, wrong⟩ := holderOf_error unheld
        obtain ⟨problem, wrong⟩ := Option.ne_none_iff_exists'.1 wrong
        exact ⟨told, checkImpact_event wrong⟩
      · rcases bind_eq_error.1 unsent with refused | ⟨event, _, nothing⟩
        · cases reference with
          | inventory element property =>
              cases held
              cases refused
              exact ⟨rfl, by simp [checkImpact]⟩
          | own | player =>
              cases held
              cases refused
          | keyed element property =>
              simp only [holderOf] at held
              cases named : world.require element with
              | error error => simp [named, Functor.map, Except.map] at held
              | ok number =>
                  simp only [named, Functor.map, Except.map] at held
                  cases held
                  cases refused
        · cases nothing

end World

end Narrative
