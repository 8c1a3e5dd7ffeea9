/-
Module: Narrative.Proofs.Engine.Safe
Purpose: Engines in which nothing is shown, remembered or selected that is not in the world, and
  actions that keep them so. An action that fails leaves such an engine as well.
Main exports: Engine.Sound, Engine.Follows, Play.Ends, Play.Safe, Play.Safe.bind, Play.Safe.change
-/
import Narrative.Engine.Handle
import Narrative.Proofs.World.Built

namespace Narrative

/-! ### Sound engines -/

/-- The number is that of an item. -/
def World.IsItem (world : World) (number : Nat) : Prop :=
  (world.entity? number).any (! ·.isLocation) = true

@[simp] theorem World.isItem_plan (world : World) (number : Nat) :
    world.plan.IsItem number ↔ world.IsItem number := by
  simp [IsItem, Option.any_map]

/-- The choice stands for something that there is in the world. -/
def Choice.IsIn (world : World) : Choice → Prop
  | .interaction number position => (world.node? ⟨number, .interaction position, []⟩).isSome
  | .location number => world.IsLocation number

@[simp] theorem Choice.isIn_plan (world : World) (choice : Choice) :
    choice.IsIn world.plan ↔ choice.IsIn world := by
  cases choice <;> simp [IsIn]

/-- Every number and every choice that the engine and its world hold is what it is used as. -/
structure Engine.Sound (engine : Engine) : Prop where
  world : engine.world.WellBuilt
  focus : engine.world.IsLocation engine.world.focus
  options : ∀ option ∈ engine.options, option.2.IsIn engine.world
  items : ∀ item ∈ engine.items, engine.world.IsItem item.2
  selected : ∀ item ∈ engine.mode.selected?, engine.world.IsItem item

/-- The world of the engine follows a plan, and what the engine holds is in that plan. -/
structure Engine.Follows (plan : World) (engine : Engine) : Prop where
  world : World.Follows plan engine.world
  options : ∀ option ∈ engine.options, option.2.IsIn plan
  items : ∀ item ∈ engine.items, plan.IsItem item.2
  selected : ∀ item ∈ engine.mode.selected?, plan.IsItem item

theorem Engine.Follows.sound {plan : World} {engine : Engine} (well : plan.WellBuilt)
    (follows : engine.Follows plan) : engine.Sound := by
  obtain ⟨⟨same, focus⟩, options, items, selected⟩ := follows
  subst same
  constructor
  · simpa using well
  · simpa using focus
  · simpa using options
  · simpa using items
  · simpa using selected

/-! ### What actions do -/

namespace Play

variable {α β : Type}

theorem run_bind (first : Play α) (next : α → Play β) (engine : Engine) :
    (first >>= next).run.run engine =
      match first.run.run engine with
      | (.ok value, after) => (next value).run.run after
      | (.error error, after) => (.error error, after) := by
  rw [run_run_bind]
  rcases first.run.run engine with ⟨_ | _, _⟩ <;> rfl

theorem run_change (action : World → World.Outcome α) (engine : Engine) :
    (change action).run.run engine =
      ((action engine.world).2, { engine with world := (action engine.world).1 }) := by
  unfold change
  rw [run_bind]
  show ((set { engine with world := (action engine.world).1 } >>= fun _ =>
    change.liftExcept (action engine.world).2 : Play α)).run.run engine = _
  rw [run_bind]
  cases (action engine.world).2 <;> rfl

/-- How an action ends that is safe for a plan: the engine follows the plan, a value is as promised,
and an error is explained. -/
structure Ends (plan : World) (Gives : α → Prop) (outcome : Except EvaluationError α)
    (after : Engine) : Prop where
  follows : after.Follows plan
  gives : ∀ value, outcome = .ok value → Gives value
  explains : ∀ error, outcome = .error error → World.Explains plan after.world error

/-- From every engine that follows the plan, the action ends as it should. -/
def Safe (plan : World) (Gives : α → Prop) (action : Play α) : Prop :=
  ∀ engine, engine.Follows plan →
    Ends plan Gives (action.run.run engine).1 (action.run.run engine).2

namespace Safe

variable {plan : World} {Gives : α → Prop} {Then : β → Prop}

theorem pure {value : α} (good : Gives value) : Safe plan Gives (pure value) := by
  intro engine follows
  constructor
  · exact follows
  · intro result same
    cases same
    exact good
  · intro error impossible
    cases impossible

theorem bind {first : Play α} {next : α → Play β} (safe : Safe plan Gives first)
    (continues : ∀ value, Gives value → Safe plan Then (next value)) :
    Safe plan Then (first >>= next) := by
  intro engine follows
  have ends := safe engine follows
  rw [run_bind]
  split
  next value after ended =>
    rw [ended] at ends
    exact continues value (ends.gives value rfl) after ends.follows
  next error after ended =>
    rw [ended] at ends
    constructor
    · exact ends.follows
    · intro value impossible
      cases impossible
    · intro other same
      cases same
      exact ends.explains error rfl

/-- Whatever is made of the value of a safe action may be returned. -/
theorem returning {first : Play α} (safe : Safe plan Gives first) (make : α → β) :
    Safe plan (fun _ => True) (first >>= fun value => Pure.pure (make value)) := by
  apply safe.bind
  intro value _
  exact Safe.pure trivial

theorem get : Safe plan (Engine.Follows plan) get := by
  intro engine follows
  constructor
  · exact follows
  · intro result same
    cases same
    exact follows
  · intro error impossible
    cases impossible

theorem modify {change : Engine → Engine}
    (keeps : ∀ engine, engine.Follows plan → (change engine).Follows plan) :
    Safe plan (fun _ => True) (modify change) := by
  intro engine follows
  constructor
  · exact keeps engine follows
  · intro _ _
    trivial
  · intro error impossible
    cases impossible

/-- What is done to the world is safe if it keeps to the plan and its errors are explained. -/
theorem change {action : World → World.Outcome α}
    (keeps : ∀ world, World.Follows plan world → World.Follows plan (action world).1)
    (gives : ∀ world, World.Follows plan world →
      ∀ value, (action world).2 = .ok value → Gives value)
    (explains : ∀ world, World.Follows plan world →
      ∀ error, (action world).2 = .error error → World.Explains plan (action world).1 error) :
    Safe plan Gives (change action) := by
  intro engine follows
  rw [run_change]
  constructor
  · exact ⟨keeps _ follows.world, follows.options, follows.items, follows.selected⟩
  · exact gives _ follows.world
  · exact explains _ follows.world

/-- A question is safe if it fails only for what the world does not resolve. -/
theorem ask {question : World → Except EvaluationError α}
    (gives : ∀ world, World.Follows plan world → ∀ value, question world = .ok value → Gives value)
    (fails : ∀ world error, question world = .error error →
      error.isTold = true ∧ ¬ world.Resolved) :
    Safe plan Gives (ask question) := by
  apply Safe.change
  · exact fun _ follows => follows
  · exact gives
  · intro world follows error failed
    obtain ⟨told, unresolved⟩ := fails world error failed
    rw [← World.resolved_plan, follows.plan_eq] at unresolved
    exact .inl ⟨told, unresolved⟩

end Safe

end Play

end Narrative
