/-
Module: Narrative.Proofs.App.FocusTrace
Purpose: The events of the focus over whole sessions of an app, commands for authors among them: they
  are one way through the locations of the world, which ends where the focus is.
Main exports: App.focusTrace
-/
import Narrative.Proofs.App.Operations
import Narrative.Proofs.World.FocusTrace

namespace Narrative.App

/-- A session in a world that was built, whose listeners only note events and record those of the focus
from the building on. At every moment, also after operations that fail midway, the recorded events are
those of a way through locations that begins at the start of the story and ends where the focus is. -/
theorem focusTrace {model : Model.World} {bus : Bus Handler} {world : World}
    (built : model.build bus = .ok world) (records : bus.Records EventKind.ofFocus)
    {app : App} {exitName : String} (starts : app.engine = Engine.start world exitName)
    {operations : List App.Operation} (isIn : ∀ operation ∈ operations, operation.IsIn world.plan) :
    ∃ start, world.resolveLocation? model.start = some start ∧
      FocusTrace world.IsLocation start (app.operateAll operations).engine.world.focusEvents
        (app.operateAll operations).engine.world.focus := by
  obtain ⟨well, follows⟩ := Model.World.follows_of_build built
  obtain ⟨start, found, begun⟩ := Model.World.traced_of_build built records
  have listening : World.Traced world.plan start app.engine.world := by
    rw [starts]
    exact ⟨rfl, begun.records.watched .focusChanged, begun.trace⟩
  have leads : app.engine.Follows world.plan := by
    rw [starts]
    exact Engine.follows_start follows exitName
  have traced := (reaches_operateAll well leads isIn).keeps (World.chronicle_traced well start) listening
  have same : world.plan.IsLocation = world.IsLocation :=
    funext fun number => propext (World.isLocation_plan world number)
  exact ⟨start, found, same ▸ traced.trace⟩

/-- The dark hall, played by its author: jumping to the attic and back, and there again past the
engine. The lamp has a number as well, and the focus never comes there. -/
theorem focusTrace_darkHall :
    ∃ world, darkHall.build (.recording EventKind.ofFocus) = .ok world ∧ ∃ app : App,
      app.engine = Engine.start world usualExitName ∧ ∃ start,
        world.resolveLocation? "hall" = some start ∧
        FocusTrace world.IsLocation start
          (app.operateAll [.engine .intro, .line "/goto attic", .line "x",
            .engine (.act (.apply 2 (.focus "attic"))), .line "/goto lamp",
            .engine (.act (.setFocus 0))]).engine.world.focusEvents
          (app.operateAll [.engine .intro, .line "/goto attic", .line "x",
            .engine (.act (.apply 2 (.focus "attic"))), .line "/goto lamp",
            .engine (.act (.setFocus 0))]).engine.world.focus := by
  have checked : (match darkHall.build (.recording EventKind.ofFocus) with
      | .ok world => (world.entity? 2).isSome && decide (world.IsLocation 0)
      | .error _ => false) = true := by decide +kernel
  cases built : darkHall.build (.recording EventKind.ofFocus) with
  | error error =>
      rw [built] at checked
      cases checked
  | ok world =>
      rw [built] at checked
      obtain ⟨lamp, hall⟩ := Bool.and_eq_true_iff.1 checked
      let app : App := {
        title := darkHall.title, dev := true, scripts := ⟨Path.parse "scripts", [], []⟩
        engine := Engine.start world usualExitName }
      refine ⟨world, rfl, app, rfl, focusTrace built (Bus.records_recording (by decide)) rfl ?_⟩
      simp only [List.forall_mem_cons]
      refine ⟨trivial, trivial, trivial, ?_, trivial, ?_, by simp⟩
      · show (world.plan.entity? 2).isSome = true
        rw [World.entity?_plan, Option.isSome_map]
        exact lamp
      · exact (World.isLocation_plan world 0).2 (of_decide_eq_true hall)

end Narrative.App
