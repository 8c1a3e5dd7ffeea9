/-
Module: Narrative.Proofs.App.Faithful
Purpose: A world is faithful to its definition from the building on, and nothing that is done in a
  session of an app takes away from it, adds to it, or connects it in another way.
Main exports: Model.World.stays_faithful
-/
import Narrative.Proofs.App.Operations
import Narrative.Proofs.World.Faithful

namespace Narrative.Model.World

/-- A world that was built, whoever listens, is faithful to its definition. In every session the plan
of the world stays: whatever is done, only tags, numbers of tellings and the focus change, and what
the journal and the log hold. -/
theorem stays_faithful {model : Model.World} {bus : Bus Handler} {world : Narrative.World}
    (built : model.build bus = .ok world) :
    model.Faithful world ∧
      ∀ (app : App) (exitName : String) (operations : List App.Operation),
        app.engine = Engine.start world exitName →
        (∀ operation ∈ operations, operation.IsIn world.plan) →
        (app.operateAll operations).engine.world.plan = world.plan := by
  obtain ⟨well, follows⟩ := follows_of_build built
  refine ⟨isFaithful_of_build built, ?_⟩
  intro app exitName operations starts isIn
  have leads : app.engine.Follows world.plan := by
    rw [starts]
    exact Engine.follows_start follows exitName
  exact (App.reaches_operateAll well leads isIn).follows.world.plan_eq

/-- The dark hall is faithful to its definition, and has the same plan after the lamp was lit. -/
theorem stays_faithful_darkHall :
    ∃ world, darkHall.build {} = .ok world ∧ darkHall.Faithful world ∧ ∃ app : App,
      app.engine = Engine.start world usualExitName ∧
        (app.operateAll [.engine .intro, .line "i", .line "1", .line "1",
          .line "x"]).engine.world.plan = world.plan := by
  have checked : (darkHall.build {}).isOk = true := by decide +kernel
  cases built : darkHall.build {} with
  | error error =>
      rw [built] at checked
      cases checked
  | ok world =>
      obtain ⟨faithful, stays⟩ := stays_faithful built
      let app : App := {
        title := darkHall.title, dev := false, scripts := ⟨Path.parse "scripts", [], []⟩
        engine := Engine.start world usualExitName }
      refine ⟨world, rfl, faithful, app, rfl, stays app usualExitName _ rfl ?_⟩
      simp [App.Operation.IsIn, Operation.IsIn]

end Narrative.Model.World
