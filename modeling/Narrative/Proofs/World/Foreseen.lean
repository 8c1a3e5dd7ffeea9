/-
Module: Narrative.Proofs.World.Foreseen
Purpose: Errors that can be foreseen. What a requirement or an impact fails with in play is read off
  the keys of the world: the first key in a requirement that no entity has, and the problem that the
  search for issues reports of an impact.
Main exports: Reference.key?, World.hasKey, Requirement.unknownKey?, Impact.fault?,
  Requirement.failureOf?_evaluate, World.failureOf?_applyWith, World.mem_issues_impact_iff
-/
import Narrative.Proofs.Requirement.Questions
import Narrative.Proofs.World.Failure
import Narrative.Proofs.World.Tags

namespace Narrative

open Model (failureOf?)

/-! ### Failures of steps -/

theorem failureOf?_eq_some_iff {ε α : Type} {outcome : Except ε α} {failure : ε} :
    failureOf? outcome = some failure ↔ outcome = .error failure := by
  constructor
  · exact Model.eq_error_of_failureOf?
  · rintro rfl
    rfl

theorem failureOf?_map {ε α β : Type} (outcome : Except ε α) (change : α → β) :
    failureOf? (outcome.map change) = failureOf? outcome := by
  cases outcome <;> rfl

/-- What is asked of a list one after the other fails with the first failure. -/
theorem failureOf?_mapM {ε α β : Type} (step : α → Except ε β) (entries : List α) :
    failureOf? (entries.mapM step) = entries.findSome? fun entry => failureOf? (step entry) := by
  induction entries with
  | nil => rfl
  | cons entry rest ih =>
      rw [List.mapM_cons, List.findSome?_cons, ← ih]
      cases step entry with
      | error failure => rfl
      | ok result => cases rest.mapM step <;> rfl

/-! ### Requirements -/

/-- The key by which a reference names an entity. -/
def Reference.key? : Reference → Option String
  | .keyed element _ => some element
  | .own _ | .player .. | .inventory .. => none

/-- The keys in a requirement, from left to right. -/
def Requirement.keys (requirement : Requirement) : List String :=
  requirement.references.filterMap Reference.key?

/-- The key is that of an entity. -/
def World.hasKey (world : World) (key : String) : Bool := world.entities.any (·.key? = some key)

/-- The first key in a requirement that no entity has. -/
def Requirement.unknownKey? (requirement : Requirement) (world : World) : Option String :=
  requirement.keys.find? (! world.hasKey ·)

/-- A requirement that was read has no empty keys. -/
theorem Requirement.key_of_parse {text key : String} {requirement : Requirement}
    (parsed : Requirement.parse text = .ok requirement) (among : key ∈ requirement.keys) :
    key ≠ "" := by
  obtain ⟨_, _, readable⟩ := parse_eq_ok_iff.1 parsed
  obtain ⟨reference, member, named⟩ := List.mem_filterMap.1 among
  have read := readable reference member
  cases reference with
  | own | player | inventory => cases named
  | keyed element property =>
      cases named
      exact Reference.element_of_parse read rfl

namespace World

variable {world : World}

/-- A key leads nowhere exactly if no entity has it. -/
theorem resolve?_eq_none_iff {key : String} (filled : key ≠ "") :
    world.resolve? key = none ↔ world.hasKey key = false := by
  unfold resolve? hasKey
  rw [List.findIdx?_eq_none_iff, List.any_eq_false]
  refine forall₂_congr fun entity _ => ?_
  simp [Entity.lookupKey?_eq_some_iff, filled]

@[simp] theorem hasKey_plan (world : World) (key : String) : world.plan.hasKey key = world.hasKey key := by
  simp only [hasKey, plan, List.any_map]
  rfl

theorem failureOf?_holderOf (world : World) (source : Nat) (reference : Reference) :
    failureOf? (world.holderOf source reference) =
      reference.key?.bind fun key =>
        if world.resolve? key = none then some (.unknownReference key .element) else none := by
  cases reference with
  | own | player | inventory => rfl
  | keyed element property =>
      simp only [holderOf, require, Reference.key?, Option.bind_some]
      cases world.resolve? element <;> rfl

theorem failureOf?_hasFact (world : World) (source : Nat) (reference : Reference) :
    failureOf? (world.hasFact source reference) = failureOf? (world.holderOf source reference) :=
  failureOf?_map _ _

end World

/-- References that are asked for one after the other fail at the first key that no entity has. -/
theorem World.failureOf?_mapM_hasFact {world : World} {references : List Reference}
    (filled : ∀ key ∈ references.filterMap Reference.key?, key ≠ "") (source : Nat) :
    failureOf? (references.mapM (world.hasFact source)) =
      ((references.filterMap Reference.key?).find? (! world.hasKey ·)).map
        (.unknownReference · .element) := by
  rw [failureOf?_mapM]
  induction references with
  | nil => rfl
  | cons reference rest ih =>
      rw [List.findSome?_cons, failureOf?_hasFact, failureOf?_holderOf]
      cases named : reference.key? with
      | none =>
          rw [List.filterMap_cons_none named] at filled ⊢
          exact ih filled
      | some key =>
          rw [List.filterMap_cons_some named] at filled ⊢
          obtain ⟨here, others⟩ := List.forall_mem_cons.1 filled
          simp only [Option.bind_some, resolve?_eq_none_iff here, List.find?_cons]
          cases world.hasKey key with
          | false => rfl
          | true => exact ih others

/-- A requirement fails at its first key that no entity has, whatever the facts are. -/
theorem Requirement.failureOf?_evaluate {requirement : Requirement} {world : World}
    (filled : ∀ key ∈ requirement.keys, key ≠ "") (source : Nat) :
    failureOf? (requirement.evaluate (world.hasFact source)) =
      (requirement.unknownKey? world).map (.unknownReference · .element) := by
  have asked : failureOf? (requirement.evaluate (world.hasFact source)) =
      failureOf? (requirement.references.mapM (world.hasFact source)) := by
    unfold Requirement.evaluate
    rw [Formula.evaluate_eq_mapM]
    exact failureOf?_map _ _
  rw [asked, World.failureOf?_mapM_hasFact filled]
  rfl

theorem Requirement.unknownKey?_plan (requirement : Requirement) (world : World) :
    requirement.unknownKey? world.plan = requirement.unknownKey? world := by
  simp [unknownKey?]

/-! ### Impacts -/

/-- What stands behind the sign of an impact. -/
def Impact.argument : Impact → String
  | .manipulate _ reference | .event reference => reference.text
  | .focus key => key

/-- What an impact with a problem fails with. An item that there is not can be held all the same. -/
def Impact.fault? (impact : Impact) : Problem → Option EvaluationError
  | .unknownItem _ => none
  | .unknownKey key => some (.unknownReference key .element)
  | .unknownLocation key => some (.unknownReference key .location)
  | .inventoryEvent => some (.inventoryEvent impact.argument)

namespace World

variable {world : World}

theorem fault?_of_checkReference {impact : Impact} (world : World) (source : Nat)
    (reference : Reference) :
    (world.checkReference reference).bind impact.fault? =
      failureOf? (world.holderOf source reference) := by
  rw [failureOf?_holderOf]
  cases reference with
  | own | player => rfl
  | inventory element property =>
      simp only [checkReference, Reference.key?, Option.bind_none]
      cases world.resolveItem? property <;> rfl
  | keyed element property =>
      simp only [checkReference, Reference.key?, Option.bind_some]
      cases world.resolve? element <;> rfl

/-- An impact fails exactly if something is wrong with it beside the item, and with that. -/
theorem failureOf?_applyWith (emit : Event → World → World) (source : Nat) (impact : Impact) :
    failureOf? (world.applyWith emit source impact) =
      (world.checkImpact impact).bind impact.fault? := by
  cases impact with
  | manipulate manipulation reference =>
      rw [checkImpact, fault?_of_checkReference world source]
      exact failureOf?_map _ _
  | focus key =>
      simp only [applyWith, checkImpact]
      cases world.resolveLocation? key <;> rfl
  | event reference =>
      cases reference with
      | own | player | inventory => rfl
      | keyed element property =>
          rw [checkImpact, fault?_of_checkReference world source]
          · simp only [applyWith, holderOf]
            cases world.require element <;> rfl
          · simp

/-- The search for issues reports a problem with an impact of a node exactly if there is one. -/
theorem mem_issues_impact_iff {path : NodePath} {node : Node} (found : world.node? path = some node)
    {impact : Impact} (member : impact ∈ node.passage.impacts) {problem : Problem} :
    (∃ label, Issue.impact label impact problem ∈ world.issues) ↔
      world.checkImpact impact = some problem := by
  constructor
  · rintro ⟨label, reported⟩
    rcases List.mem_append.1 reported with ofSite | held
    · obtain ⟨site, _, ofSite⟩ := List.mem_flatMap.1 ofSite
      rcases List.mem_append.1 ofSite with ofPassage | ofTarget
      · rcases List.mem_append.1 ofPassage with required | ofImpact
        · cases needed : site.passage.requirement? <;> simp [needed] at required
        · obtain ⟨other, _, made⟩ := List.mem_filterMap.1 ofImpact
          obtain ⟨problem, wrong, same⟩ := Option.map_eq_some_iff.1 made
          cases same
          exact wrong
      · split at ofTarget
        · split at ofTarget <;> simp at ofTarget
        · cases ofTarget
    · obtain ⟨key, _, other⟩ := List.mem_map.1 held
      cases other
  · intro wrong
    obtain ⟨site, visited, _, told⟩ := exists_site found
    refine ⟨site.label, List.mem_append_left _ ?_⟩
    apply List.mem_flatMap_of_mem visited
    apply List.mem_append_left
    apply List.mem_append_right
    exact List.mem_filterMap.2 ⟨impact, told ▸ member, by rw [wrong]; rfl⟩

end World

end Narrative
