/-
Module: Narrative.Proofs.App.Operations
Purpose: Sessions of an app. The commands for authors do nothing to a world that acts which name what
  is in the plan could not do: they go to a location that a key names, or let the lines of scripts be
  handled.
Main exports: App.Operation, App.operate, App.operateAll, Act.Leads, Act.Leads.bind,
  Act.leads_handleLine, App.reaches_operateAll
-/
import Narrative.App
import Narrative.Proofs.Engine.Operations

namespace Narrative

/-- What can be done in a session of an app: something to its engine, or a line is typed, which may be
a command for authors. -/
inductive App.Operation where
  | engine (operation : Narrative.Operation)
  | line (text : String)

/-- What the operation names is in the plan. -/
def App.Operation.IsIn (plan : World) : App.Operation → Prop
  | .engine inner => inner.IsIn plan
  | .line _ => True

namespace App

/-- The app after an operation, however it ended. -/
def operate (app : App) : App.Operation → App
  | .engine operation => { app with engine := app.engine.operate operation }
  | .line text => ((Act.handleLine text).run.run app).2

/-- The app after operations, one after the other. -/
def operateAll (app : App) (operations : List App.Operation) : App :=
  operations.foldl operate app

end App

namespace Act

variable {α β : Type} {plan : World} {app : App}

theorem run_get_bind (next : App → Act α) (app : App) :
    (get >>= next).run.run app = (next app).run.run app := rfl

/-- To let the engine act is to act on the engine of the app. -/
theorem run_play (action : Play α) (app : App) :
    (play action).run.run app =
      ((action.run.run app.engine).1.mapError .story,
        { app with engine := (action.run.run app.engine).2 }) := by
  have asked : (get : Act App).run.run app = (.ok app, app) := rfl
  unfold play
  rw [run_run_bind, asked]
  dsimp only
  rcases action.run.run app.engine with ⟨outcome, engine⟩
  cases outcome <;> rfl

/-- From the app, if its engine follows the plan, the action goes on by acts that name what is in the
plan, and the engine follows the plan after it. -/
def Leads (plan : World) (action : Act α) (app : App) : Prop :=
  app.engine.Follows plan → app.engine.Reaches plan (action.run.run app).2.engine

namespace Leads

/-- What does nothing to the engine keeps to every plan. -/
theorem of_same {action : Act α} (same : (action.run.run app).2.engine = app.engine) :
    Leads plan action app := by
  intro follows
  rw [same]
  exact .refl follows

theorem pure (value : α) : Leads plan (pure value) app := of_same rfl

theorem bind {first : Act α} {next : α → Act β} (leads : Leads plan first app)
    (continues : ∀ value after, Leads plan (next value) after) :
    Leads plan (first >>= next) app := by
  intro follows
  have before := leads follows
  rw [run_run_bind]
  split
  next value after ended =>
    rw [ended] at before
    exact before.trans (continues value after before.follows)
  next error after ended =>
    rw [ended] at before
    exact before

/-- What is asked of the app is what it is. -/
theorem get_bind {next : App → Act β} (continues : Leads plan (next app) app) :
    Leads plan (get >>= next) app := continues

/-- What the engine does safely keeps to the plan, if it moves the focus only to locations. -/
theorem play {action : Play α} {Gives : α → Prop} {Fits : Nat → Prop}
    (safe : Play.Safe plan Gives action) (performs : Play.Performs Fits action app.engine)
    (located : app.engine.Follows plan → ∀ location, Fits location → plan.IsLocation location) :
    Leads plan (play action) app := by
  intro follows
  rw [run_play]
  exact Engine.reaches_of_safe safe performs (located follows) follows

end Leads

theorem leads_printLine (line : String) : Leads plan (printLine line) app := .of_same rfl

theorem leads_ofScript (outcome : Except ScriptFault α) : Leads plan (ofScript outcome) app := by
  apply Leads.of_same
  cases outcome <;> rfl

/-- The lines of a script lead where each of them does. -/
theorem leads_runLines {handle : String → Act Reply}
    (each : ∀ line app, Leads plan (handle line) app) (lines : List String) :
    Leads plan (runLines handle lines) app := by
  induction lines generalizing app with
  | nil => exact Leads.pure _
  | cons line rest ih =>
      refine (each line app).bind fun reply after => ?_
      split
      · exact Leads.pure _
      · exact ih.bind fun shown _ => Leads.pure _

theorem leads_runScript {handle : String → Act Reply}
    (each : ∀ line app, Leads plan (handle line) app) (arguments : List String) :
    Leads plan (runScript handle arguments) app := by
  unfold runScript
  split
  next name =>
    apply Leads.get_bind
    refine (leads_ofScript _).bind fun file? _ => ?_
    split
    next => exact Leads.pure _
    next file =>
      refine (leads_printLine _).bind fun _ _ => ?_
      refine (leads_ofScript _).bind fun text? _ => ?_
      split
      next => exact Leads.pure _
      next text => exact (leads_runLines each _).bind fun shown _ => Leads.pure _
  next => exact Leads.pure _

section

variable (well : plan.WellBuilt)

include well

theorem leads_playLine (line : String) : Leads plan (play (Play.handleLine line)) app :=
  Leads.play (Play.safe_handleLine well line) (Play.performs_handleLine line)
    fun follows => follows.isLocation_of_offers

theorem safe_visit {location : Nat} (located : plan.IsLocation location) :
    Play.Safe plan (fun _ => True) (do
      Play.setFocus location
      return Reply.ok (← Play.describeLocation true)) := by
  apply Play.Safe.bind (Play.safe_setFocus located)
  intro _ _
  exact Play.Safe.returning (Play.safe_describeLocation well true) _

theorem leads_goTo (arguments : List String) : Leads plan (goTo arguments) app := by
  unfold goTo
  split
  next key =>
    apply Leads.get_bind
    split
    next => exact Leads.pure _
    next location found =>
      intro follows
      have located : plan.IsLocation location := by
        rw [← follows.world.plan_eq, World.isLocation_plan]
        exact World.isLocation_of_resolveLocation? found
      have performs : Play.Performs plan.IsLocation (do
          Play.setFocus location
          return Reply.ok (← Play.describeLocation true)) app.engine := by
        refine (Play.performs_setFocus located).bind fun _ _ => ?_
        exact (Play.performs_describeLocation true).returning _
      exact Leads.play (safe_visit well located) performs (fun _ _ fits => fits) follows
  next => exact Leads.pure _

/-- The induction is on how many scripts may still run inside one another. -/
theorem leads_handleNested (running : Nat) (line : String) :
    Leads plan (handleNested running line) app := by
  induction running generalizing line app with
  | zero =>
      unfold handleNested
      apply Leads.get_bind
      split
      · exact leads_playLine well line
      · exact leads_goTo well _
      · exact Leads.of_same rfl
      · exact Leads.of_same rfl
  | succ running ih =>
      unfold handleNested
      apply Leads.get_bind
      split
      · exact leads_playLine well line
      · exact leads_goTo well _
      · exact Leads.of_same rfl
      · exact leads_runScript (fun line _ => ih line) _

/-- Whatever line is typed, the app keeps to the plan. -/
theorem leads_handleLine (line : String) : Leads plan (handleLine line) app :=
  leads_handleNested well maxRunning line

end

end Act

namespace App

variable {plan : World} {app : App}

theorem reaches_operate (well : plan.WellBuilt) (follows : app.engine.Follows plan)
    {operation : App.Operation} (isIn : operation.IsIn plan) :
    app.engine.Reaches plan (app.operate operation).engine := by
  cases operation with
  | engine operation => exact Engine.reaches_operate well follows isIn
  | line text => exact Act.leads_handleLine well text follows

/-- From operations that name what is in the plan, an app that keeps to it keeps to it. -/
theorem reaches_operateAll (well : plan.WellBuilt) (follows : app.engine.Follows plan)
    {operations : List App.Operation} (isIn : ∀ operation ∈ operations, operation.IsIn plan) :
    app.engine.Reaches plan (app.operateAll operations).engine := by
  induction operations generalizing app with
  | nil => exact .refl follows
  | cons operation operations ih =>
      obtain ⟨first, others⟩ := List.forall_mem_cons.1 isIn
      have step := reaches_operate well follows first
      exact step.trans (ih step.follows others)

end App

end Narrative
