/-
Module: Narrative.Proofs.World.Follows
Purpose: Worlds that follow a plan: they have it as their plan, and their focus is at one of its
  locations. Impacts, events and moves of the focus lead from such worlds to such worlds, whoever
  listens.
Main exports: World.IsLocation, World.Follows, World.Follows.stable, World.Follows.emit,
  World.Follows.applyImpact, World.Follows.setFocus
-/
import Narrative.Proofs.World.Plan
import Narrative.Proofs.World.Stable

namespace Narrative.World

/-- The number is that of a location. -/
def IsLocation (world : World) (number : Nat) : Prop := (world.place? number).isSome

instance (world : World) (number : Nat) : Decidable (world.IsLocation number) :=
  inferInstanceAs (Decidable (_ = true))

@[simp] theorem isLocation_plan (world : World) (number : Nat) :
    world.plan.IsLocation number ↔ world.IsLocation number := by
  simp [IsLocation]

theorem isLocation_of_resolveLocation? {world : World} {key : String} {number : Nat}
    (found : world.resolveLocation? key = some number) : world.IsLocation number := by
  obtain ⟨_, located⟩ := Option.filter_eq_some_iff.1 found
  unfold IsLocation place?
  cases known : world.entity? number with
  | none => simp [known] at located
  | some entity => simpa [known, Entity.isLocation] using located

theorem lt_of_isLocation {world : World} {number : Nat} (located : world.IsLocation number) :
    number < world.entities.length := by
  unfold IsLocation place? at located
  cases known : world.entity? number with
  | none => simp [known] at located
  | some entity => exact (List.getElem?_eq_some_iff.1 known).1

/-- The world has the plan, and its focus is at a location. -/
structure Follows (plan world : World) : Prop where
  plan_eq : world.plan = plan
  focus_isLocation : plan.IsLocation world.focus

namespace Follows

variable {plan world : World}

/-- Impacts, events and moves of the focus to locations keep to a plan. -/
theorem stable (plan : World) : Stable plan.IsLocation (Follows plan) where
  setTags tags holder follows := by
    constructor
    · rw [plan_setTags, follows.plan_eq]
    · cases holder <;> exact follows.focus_isLocation
  fits follows found := by
    rw [← follows.plan_eq, isLocation_plan]
    exact isLocation_of_resolveLocation? found
  focus located follows := ⟨follows.plan_eq, located⟩
  books _ _ _ _ follows := ⟨follows.plan_eq, follows.focus_isLocation⟩

theorem emit (follows : Follows plan world) (event : Event) : Follows plan (world.emit event) :=
  (stable plan).emit follows event

theorem applyImpact (follows : Follows plan world) {source : Nat} {impact : Impact} {after : World}
    (applied : world.applyImpact source impact = .ok after) : Follows plan after :=
  (stable plan).applyImpact follows applied

theorem setFocus (follows : Follows plan world) {location : Nat}
    (located : plan.IsLocation location) : Follows plan (world.setFocus location) :=
  (stable plan).setFocus follows located

end Follows

end Narrative.World
