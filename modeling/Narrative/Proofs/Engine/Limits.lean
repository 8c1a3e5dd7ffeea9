/-
Module: Narrative.Proofs.Engine.Limits
Purpose: Limits of tellings over whole sessions, in which the player types lines and the world is
  evaluated and changed past the engine as well. At every moment, also in the middle of a command or
  after one that failed, a node with a limit has been told no more often than it may be.
Main exports: Engine.Traces, Engine.exists_traces, Engine.limits_hold
-/
import Narrative.Proofs.Engine.Operations

namespace Narrative

namespace Engine

/-- The operation does the acts to the world; if it is an act past the engine, only that. -/
def Does (engine : Engine) (operation : Operation) (acts : List World.Act) : Prop :=
  (engine.operate operation).world = engine.world.performAll acts ∧
    ∀ act, operation = .act act → acts = [act]

/-- The acts that operations do, one operation after the other. -/
inductive Traces : Engine → List Operation → List World.Act → Prop
  | nil (engine : Engine) : Traces engine [] []
  | cons {engine : Engine} {operation : Operation} {operations : List Operation}
      {acts others : List World.Act} (does : engine.Does operation acts)
      (rest : Traces (engine.operate operation) operations others) :
      Traces engine (operation :: operations) (acts ++ others)

theorem Traces.world {engine : Engine} {operations : List Operation} {acts : List World.Act}
    (traces : engine.Traces operations acts) :
    (engine.operateAll operations).world = engine.world.performAll acts := by
  induction traces with
  | nil => rfl
  | cons does _ ih =>
      rw [World.performAll_append, ← does.1, ← ih]
      rfl

theorem exists_does (engine : Engine) (operation : Operation) :
    ∃ acts, engine.Does operation acts := by
  cases operation with
  | act act =>
      refine ⟨[act], rfl, ?_⟩
      intro other same
      cases same
      rfl
  | intro =>
      obtain ⟨acts, _, done⟩ : Play.Performs engine.Offers Play.intro engine := Play.performs_intro
      exact ⟨acts, done, fun _ other => by cases other⟩
  | line text =>
      obtain ⟨acts, _, done⟩ : Play.Performs engine.Offers (Play.handleLine text) engine :=
        Play.performs_handleLine text
      exact ⟨acts, done, fun _ other => by cases other⟩

/-- Every session goes from act to act. -/
theorem exists_traces (engine : Engine) (operations : List Operation) :
    ∃ acts, engine.Traces operations acts := by
  induction operations generalizing engine with
  | nil => exact ⟨[], .nil engine⟩
  | cons operation operations ih =>
      obtain ⟨acts, does⟩ := exists_does engine operation
      obtain ⟨others, rest⟩ := ih (engine.operate operation)
      exact ⟨acts ++ others, .cons does rest⟩

/-- Limits of tellings over a session, whatever is done in it and whatever fails. The number of
tellings of a node is how often it had been told before, and one more for each walk that counts and
tells it; between two moments it does not fall. For a node that is not a location in no
other, with a limit, the number exceeds the limit at no moment, unless it did from the start; no more
walks that count tell the node than are left of its limit; and once the number has reached the limit,
nothing comes of the node any more. -/
theorem limits_hold (engine : Engine) (operations : List Operation) :
    ∃ acts, engine.Traces operations acts ∧
      ∀ before between after, acts = before ++ between ++ after →
      ∀ path first, engine.world.node? path = some first →
      ∃ node next, (engine.world.performAll before).node? path = some node ∧
        (engine.world.performAll (before ++ between)).node? path = some next ∧
        node.passage.count.value =
          first.passage.count.value + World.tellings path engine.world before ∧
        node.passage.count.value ≤ next.passage.count.value ∧
        (engine.world.isAlways path = false → 0 < first.passage.limit.value →
          node.passage.count.value ≤
              max first.passage.limit.value first.passage.count.value ∧
            World.tellings path engine.world before ≤
              (first.passage.limit.value - first.passage.count.value).toNat ∧
            (first.passage.limit.value ≤ node.passage.count.value →
              (engine.world.performAll (before ++ between)).Spent path)) := by
  obtain ⟨acts, traces⟩ := exists_traces engine operations
  refine ⟨acts, traces, ?_⟩
  intro before between after _ path first found
  obtain ⟨node, node_found, node_plan, node_count⟩ := World.passage_performAll found before
  obtain ⟨next, next_found, next_plan, next_count⟩ :=
    World.passage_performAll node_found between
  rw [← World.performAll_append] at next_found
  refine ⟨node, next, node_found, next_found, node_count, by omega, ?_⟩
  intro limited limit
  have bound := World.tellings_le found limited limit before
  refine ⟨by omega, bound, ?_⟩
  intro reached
  have same : next.passage.plan.limit = first.passage.plan.limit := by
    rw [next_plan, node_plan]
  change next.passage.limit = first.passage.limit at same
  apply World.spent_of_exhausted next_found
  · rw [World.isAlways_performAll, limited]
  · rw [World.exhausted_iff (same ▸ limit), same]
    omega

/-- A well that grants one wish. -/
def wishingWell : Model.World where
  start := "well"
  title := "Well"
  player := {}
  locations := [{
    name := "Well", key? := some "well", tags? := none, passage := {}, disableExit := false
    descriptors := [], locations := [], combinations := []
    interactions := [⟨"Wish", { description? := some "A coin falls.", limit := .number 1 }, []⟩] }]
  items := []

/-- After the wish, wherever it was made, there is none. -/
theorem limits_hold_wishingWell :
    ∃ world, wishingWell.build {} = .ok world ∧
      ((start world usualExitName).operateAll
        [.act (.evaluate ⟨0, .interaction 0, []⟩ true), .intro, .line "1"]).world.Spent
        ⟨0, .interaction 0, []⟩ := by
  have checked : (match wishingWell.build {} with
      | .ok world =>
        let begun := (start world usualExitName).world
        let wish : NodePath := ⟨0, .interaction 0, []⟩
        (begun.node? wish).any (·.passage.limit = .number 1) && !begun.isAlways wish &&
          ((begun.perform (.evaluate wish true)).node? wish).any (·.passage.count = .number 1)
      | .error _ => false) = true := by decide +kernel
  cases built : wishingWell.build {} with
  | error error =>
      rw [built] at checked
      cases checked
  | ok world =>
      rw [built] at checked
      simp only [Bool.and_eq_true, Option.any_eq_true, decide_eq_true_eq, Bool.not_eq_true'] at checked
      obtain ⟨⟨⟨first, found, limit⟩, limited⟩, ⟨wished, wished_found, count⟩⟩ := checked
      refine ⟨world, rfl, ?_⟩
      obtain ⟨_, traces, holds⟩ := limits_hold (start world usualExitName)
        [.act (.evaluate ⟨0, .interaction 0, []⟩ true), .intro, .line "1"]
      rw [traces.world]
      cases traces with
      | @cons _ _ _ acts others does rest =>
          obtain rfl := does.2 _ rfl
          obtain ⟨node, _, node_found, _, _, _, limits⟩ :=
            holds [_] others [] (List.append_nil _).symm _ first found
          cases node_found.symm.trans wished_found
          refine (limits limited ?_).2.2 ?_
          · simp [limit, Tally.value]
          · simp [limit, count, Tally.value]

end Engine

end Narrative
