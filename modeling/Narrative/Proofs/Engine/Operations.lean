/-
Module: Narrative.Proofs.Engine.Operations
Purpose: Sessions in which the player types lines and the world is evaluated and changed past the
  engine as well. From operations that name what is in the plan, an engine that follows it goes from
  act to act, each of which names what is in the plan.
Main exports: Operation, Engine.operate, Engine.operateAll, Engine.Reaches, Engine.reaches_of_safe,
  Engine.reaches_operate, Engine.reaches_operateAll, Engine.reaches_of_play
-/
import Narrative.Proofs.Engine.Acts
import Narrative.Proofs.World.Chronicle

namespace Narrative

/-- What can be done in a session: an act past the engine, such as an evaluation of some node, or
something that the engine does. -/
inductive Operation where
  | act (act : World.Act)
  | intro
  | line (text : String)

/-- What the operation names is in the plan. What the engine does by itself names nothing. -/
def Operation.IsIn (plan : World) : Operation → Prop
  | .act done => done.IsIn plan
  | .intro | .line _ => True

theorem World.Act.isIn_of_moves {plan : World} {Fits : Nat → Prop} {act : World.Act}
    (located : ∀ location, Fits location → plan.IsLocation location) (moves : act.Moves Fits) :
    act.IsIn plan := by
  cases act with
  | setFocus location => exact located location moves
  | apply => cases moves
  | evaluate | receive | note => trivial

theorem World.Follows.perform {plan world : World} (follows : World.Follows plan world)
    {act : World.Act} (isIn : act.IsIn plan) : World.Follows plan (world.perform act) := by
  cases act with
  | evaluate top counts => exact follows.evaluate top counts
  | apply source impact =>
      rw [World.perform]
      split
      next after applied => exact follows.applyImpact applied
      next => exact follows
  | setFocus location => exact follows.setFocus isIn
  | receive | note => exact ⟨follows.plan_eq, follows.focus_isLocation⟩

namespace Engine

/-- The engine after an operation, however it ended. -/
def operate (engine : Engine) : Operation → Engine
  | .act act => { engine with world := engine.world.perform act }
  | .intro => (Play.intro.run.run engine).2
  | .line text => ((Play.handleLine text).run.run engine).2

/-- The engine after operations, one after the other. -/
def operateAll (engine : Engine) (operations : List Operation) : Engine :=
  operations.foldl operate engine

/-- The second engine follows the plan, and its world came from that of the first by acts that name
what is in the plan. -/
structure Reaches (plan : World) (engine after : Engine) : Prop where
  follows : after.Follows plan
  acts : ∃ acts : List World.Act, (∀ act ∈ acts, act.IsIn plan) ∧
    after.world = engine.world.performAll acts

variable {plan : World} {engine : Engine}

theorem Reaches.refl (follows : engine.Follows plan) : Reaches plan engine engine :=
  ⟨follows, [], by simp, rfl⟩

theorem Reaches.trans {between after : Engine} (first : Reaches plan engine between)
    (second : Reaches plan between after) : Reaches plan engine after := by
  obtain ⟨acts, isIn, done⟩ := first.acts
  obtain ⟨others, also, rest⟩ := second.acts
  refine ⟨second.follows, acts ++ others, List.forall_mem_append.2 ⟨isIn, also⟩, ?_⟩
  rw [rest, done, World.performAll_append]

/-- What acts keep that name what is in the plan is kept as well. -/
theorem Reaches.keeps {Kept : World → Prop} {after : Engine}
    (chronicle : World.Chronicle plan Kept) (reaches : Reaches plan engine after)
    (kept : Kept engine.world) : Kept after.world := by
  obtain ⟨acts, isIn, done⟩ := reaches.acts
  rw [done]
  exact chronicle.performAll kept isIn

/-- An action that is safe, and that moves the focus only to locations, keeps to the plan. -/
theorem reaches_of_safe {α : Type} {action : Play α} {Gives : α → Prop} {Fits : Nat → Prop}
    (safe : Play.Safe plan Gives action) (performs : Play.Performs Fits action engine)
    (located : ∀ location, Fits location → plan.IsLocation location)
    (follows : engine.Follows plan) : Reaches plan engine (action.run.run engine).2 := by
  obtain ⟨acts, moves, done⟩ := performs
  refine ⟨(safe engine follows).follows, acts, ?_, done⟩
  intro act member
  exact World.Act.isIn_of_moves located (moves act member)

/-- The options of an engine that follows the plan offer locations of the plan only. -/
theorem Follows.isLocation_of_offers (follows : engine.Follows plan) (location : Nat)
    (offered : engine.Offers location) : plan.IsLocation location := by
  obtain ⟨⟨key, choice⟩, shown, rfl⟩ := List.mem_map.1 offered
  exact follows.options _ shown

theorem reaches_operate (well : plan.WellBuilt) (follows : engine.Follows plan)
    {operation : Operation} (isIn : operation.IsIn plan) :
    Reaches plan engine (engine.operate operation) := by
  cases operation with
  | act act =>
      constructor
      · exact ⟨follows.world.perform isIn, follows.options, follows.items, follows.selected⟩
      · exact ⟨[act], List.forall_mem_singleton.2 isIn, rfl⟩
  | intro =>
      exact reaches_of_safe (Play.safe_intro well) Play.performs_intro follows.isLocation_of_offers
        follows
  | line text =>
      exact reaches_of_safe (Play.safe_handleLine well text) (Play.performs_handleLine text)
        follows.isLocation_of_offers follows

theorem reaches_operateAll (well : plan.WellBuilt) (follows : engine.Follows plan)
    {operations : List Operation} (isIn : ∀ operation ∈ operations, operation.IsIn plan) :
    Reaches plan engine (engine.operateAll operations) := by
  induction operations generalizing engine with
  | nil => exact .refl follows
  | cons operation operations ih =>
      obtain ⟨first, others⟩ := List.forall_mem_cons.1 isIn
      have step := reaches_operate well follows first
      exact step.trans (ih step.follows others)

/-- If every action of a session keeps to the plan, so does every step. -/
theorem reaches_of_session {actions : List (Play Reply)} (follows : engine.Follows plan)
    (each : ∀ action ∈ actions, ∀ before : Engine, before.Follows plan →
      Reaches plan before (action.run.run before).2) :
    ∀ step ∈ engine.session actions, Reaches plan engine step.2 := by
  induction actions generalizing engine with
  | nil => simp [session]
  | cons action rest ih =>
      obtain ⟨first, others⟩ := List.forall_mem_cons.1 each
      have here := first engine follows
      refine List.forall_mem_cons.2 ⟨here, fun step member => ?_⟩
      exact here.trans (ih here.follows others step member)

/-- Every step of a game keeps to the plan. -/
theorem reaches_of_play (well : plan.WellBuilt) (follows : engine.Follows plan)
    (lines : List String) : ∀ step ∈ engine.play lines, Reaches plan engine step.2 := by
  apply reaches_of_session follows
  rw [List.forall_mem_cons, List.forall_mem_map]
  constructor
  · intro before follows
    exact reaches_operate well follows (show Operation.intro.IsIn plan from trivial)
  · intro line _ before follows
    exact reaches_operate well follows (show (Operation.line line).IsIn plan from trivial)

end Engine

end Narrative
