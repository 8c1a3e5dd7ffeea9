/-
Module: Narrative.Proofs.World.FocusWatch
Purpose: That no move of the focus is overlooked. Where all listeners only note events and one of them
  watches the focus, the focus is where it was when the watch began, or the move was noticed; and if none
  was, no event has told of one.
Main exports: World.Listening, World.chronicle_listening, World.Watched, World.account_watched,
  World.Unmoved, World.account_unmoved, Model.World.quiet_of_build
-/
import Narrative.Proofs.World.FocusTrace

namespace Narrative

namespace World

/-- The world has the plan, all listeners only note events, and one of them watches the focus. -/
structure Listening (plan world : World) : Prop where
  plan_eq : world.plan = plan
  quiet : world.bus.Quiet
  watches : world.bus.watches .focusChanged = true

/-- Since the watch began with the focus at a location, the focus has stayed there, or it was noticed
that it has moved. -/
structure Watched (plan : World) (begun : Nat) (world : World) : Prop
    extends Listening plan world where
  noticed : world.focus = begun ∨ world.focusMoved = true

variable {plan world : World}

/-- A move of the focus, step by step. -/
theorem setFocus_of_ne {location : Nat} (elsewhere : world.focus ≠ location) :
    world.setFocus location =
      ({ world.emit (.focusLost world.focus) with focus := location }.emit
        (.focusChanged (some world.focus) location)).emit (.focusGained location) :=
  if_neg elsewhere

namespace Listening

/-- The bus is all that the listeners are judged by. -/
theorem of_same (listening : Listening plan world) {after : World} (plans : after.plan = world.plan)
    (bus : after.bus = world.bus) : Listening plan after where
  plan_eq := plans.trans listening.plan_eq
  quiet := bus ▸ listening.quiet
  watches := bus ▸ listening.watches

theorem emit (listening : Listening plan world) (event : Event) :
    Listening plan (world.emit event) := by
  rw [emit_eq_of_quiet listening.quiet event]
  exact listening.of_same rfl rfl

theorem relocated (listening : Listening plan world) (focus : Nat) :
    Listening plan { world with focus } :=
  listening.of_same rfl rfl

theorem setFocus (listening : Listening plan world) (location : Nat) :
    Listening plan (world.setFocus location) := by
  by_cases here : world.focus = location
  · rw [show world.setFocus location = world from if_pos here]
    exact listening
  · rw [setFocus_of_ne here]
    have lost := (listening.emit (.focusLost world.focus)).relocated location
    have changed := lost.emit (.focusChanged (some world.focus) location)
    exact changed.emit (.focusGained location)

/-- When the focus changes, that is noticed. -/
theorem focusMoved_emit (listening : Listening plan world) (previous? : Option Int) (current : Int) :
    (world.emit (.focusChanged previous? current)).focusMoved = true := by
  rw [emit_eq_of_quiet listening.quiet, Event.kind, listening.watches]
  exact Bool.or_true _

/-- A move of the focus is noticed when its change is told, and what was noticed stays so. -/
theorem focusMoved_setFocus (listening : Listening plan world) {location : Nat}
    (elsewhere : world.focus ≠ location) : (world.setFocus location).focusMoved = true := by
  have lost := (listening.emit (.focusLost world.focus)).relocated location
  have changed := lost.emit (.focusChanged (some world.focus) location)
  have moved := lost.focusMoved_emit (some world.focus) location
  rw [setFocus_of_ne elsewhere, emit_eq_of_quiet changed.quiet]
  simp [moved]

end Listening

namespace Watched

variable {begun : Nat}

theorem of_same (watched : Watched plan begun world) {after : World}
    (plans : after.plan = world.plan) (bus : after.bus = world.bus)
    (focus : after.focus = world.focus) (focusMoved : after.focusMoved = world.focusMoved) :
    Watched plan begun after where
  toListening := watched.toListening.of_same plans bus
  noticed := by
    rw [focus, focusMoved]
    exact watched.noticed

/-- An event moves nothing, and what was noticed stays so. -/
theorem emit (watched : Watched plan begun world) (event : Event) :
    Watched plan begun (world.emit event) where
  toListening := watched.toListening.emit event
  noticed := by
    rw [emit_eq_of_quiet watched.quiet event]
    exact watched.noticed.imp_right fun moved => by simp [moved]

theorem setFocus (watched : Watched plan begun world) (location : Nat) :
    Watched plan begun (world.setFocus location) := by
  by_cases here : world.focus = location
  · rw [show world.setFocus location = world from if_pos here]
    exact watched
  · exact ⟨watched.toListening.setFocus location, .inr (watched.focusMoved_setFocus here)⟩

end Watched

/-- Since a world was left, it was noticed that the focus moved, or the focus is where it was and no event
has told of it. -/
structure Unmoved (plan begun world : World) : Prop extends Listening plan world where
  noticed : world.focusMoved = true ∨ world.focus = begun.focus ∧
    ∃ events, world.journal = begun.journal ++ events ∧ ∀ event ∈ events, event.isOfFocus = false

namespace Unmoved

variable {begun : World}

theorem refl (listening : Listening plan begun) : Unmoved plan begun begun :=
  ⟨listening, .inr ⟨rfl, [], (List.append_nil _).symm, List.forall_mem_nil _⟩⟩

theorem of_same (unmoved : Unmoved plan begun world) {after : World} (plans : after.plan = world.plan)
    (bus : after.bus = world.bus) (focus : after.focus = world.focus)
    (focusMoved : after.focusMoved = world.focusMoved) (journal : after.journal = world.journal) :
    Unmoved plan begun after where
  toListening := unmoved.toListening.of_same plans bus
  noticed := by
    rw [focusMoved, focus, journal]
    exact unmoved.noticed

/-- An event that does not tell of the focus leaves it at that. -/
theorem emit (unmoved : Unmoved plan begun world) {event : Event} (other : event.isOfFocus = false) :
    Unmoved plan begun (world.emit event) where
  toListening := unmoved.toListening.emit event
  noticed := by
    rw [emit_eq_of_quiet unmoved.quiet event]
    rcases unmoved.noticed with moved | ⟨focus, events, journal, others⟩
    · exact .inl (by simp [moved])
    · refine .inr ⟨focus, events ++ List.replicate _ event, by rw [journal, List.append_assoc], ?_⟩
      rw [List.forall_mem_append]
      exact ⟨others, fun _ member => (List.eq_of_mem_replicate member) ▸ other⟩

theorem setFocus (unmoved : Unmoved plan begun world) (location : Nat) :
    Unmoved plan begun (world.setFocus location) where
  toListening := unmoved.toListening.setFocus location
  noticed := by
    by_cases here : world.focus = location
    · rw [show world.setFocus location = world from if_pos here]
      exact unmoved.noticed
    · exact .inl (unmoved.focusMoved_setFocus here)

end Unmoved

/-- Whatever is done, the listeners go on listening. -/
theorem chronicle_listening (well : plan.WellBuilt) : Chronicle plan (Listening plan) where
  well := well
  planned := Listening.plan_eq
  turn {world holder tag manipulation tags} listening _ _ := by
    have changed : Listening plan (world.setTags tags holder) := by
      apply listening.of_same (plan_setTags world tags holder)
      cases holder <;> rfl
    exact changed.emit _
  move listening _ := listening.setFocus _
  send listening _ := listening.emit _
  tell _ _ listening plans := listening.of_same plans rfl
  books _ _ listening := listening.of_same rfl rfl

/-- Until the next command is received, whatever is done, no move of the focus is overlooked. -/
theorem account_watched (well : plan.WellBuilt) (begun : Nat) : Account plan (Watched plan begun) where
  well := well
  planned watched := watched.plan_eq
  turn {world holder tag manipulation tags} watched _ _ := by
    have changed : Watched plan begun (world.setTags tags holder) := by
      apply watched.of_same (plan_setTags world tags holder) <;> cases holder <;> rfl
    exact changed.emit _
  move watched _ := watched.setFocus _
  send watched _ := watched.emit _
  tell _ _ watched plans := watched.of_same plans rfl rfl rfl

/-- Whatever an evaluation does, it does not move the focus unnoticed, nor does an event tell of that. -/
theorem account_unmoved (well : plan.WellBuilt) (begun : World) : Account plan (Unmoved plan begun) where
  well := well
  planned unmoved := unmoved.plan_eq
  turn {world holder tag manipulation tags} unmoved _ _ := by
    have changed : Unmoved plan begun (world.setTags tags holder) := by
      apply unmoved.of_same (plan_setTags world tags holder) <;> cases holder <;> rfl
    exact changed.emit (by cases holder <;> rfl)
  move unmoved _ := unmoved.setFocus _
  send unmoved kind := unmoved.emit (by simp [Event.isOfFocus, kind, EventKind.ofFocus])
  tell _ _ unmoved plans := unmoved.of_same plans rfl rfl rfl rfl

end World

/-- A world that was built for listeners who only note events still has them. -/
theorem Model.World.quiet_of_build {model : Model.World} {bus : Bus Handler}
    {world : Narrative.World} (built : model.build bus = .ok world) (quiet : bus.Quiet) :
    world.bus.Quiet := by
  obtain ⟨begun, _, _, _, rfl, _, _, rfl⟩ := build_cases built
  exact World.quiet_emit (World.quiet_emit quiet _) _

end Narrative
