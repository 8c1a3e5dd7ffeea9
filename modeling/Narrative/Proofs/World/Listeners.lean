/-
Module: Narrative.Proofs.World.Listeners
Purpose: Listeners that change nothing of a story: they record events, or watch the focus. An
  emission to them adds to the journal, and leaves the rest of the world as it was.
Main exports: Bus.Quiet, Bus.Records, Bus.recording, Bus.watches, World.emit_eq_of_quiet,
  World.emit_of_quiet, World.emit_of_records
-/
import Mathlib.Data.List.Nodup
import Narrative.Proofs.Bus
import Narrative.World.Change

namespace Narrative

/-- Whether a handler only notes events. -/
def Handler.isQuiet : Handler → Bool
  | .record | .watchFocus => true
  | .react .. => false

namespace Bus

/-- How often events of a kind are recorded. -/
def recorders (bus : Bus Handler) (kind : EventKind) : Nat := (bus.handlers kind).count .record

/-- Whether somebody watches the focus at events of a kind. -/
def watches (bus : Bus Handler) (kind : EventKind) : Bool := decide (.watchFocus ∈ bus.handlers kind)

/-- All listeners only note events, and one more delivery may begin. -/
structure Quiet (bus : Bus Handler) : Prop where
  listeners : ∀ subscription ∈ bus.subscriptions, subscription.2.isQuiet = true
  room : bus.depth < maxDepth

/-- All listeners only note events, and every event of some kinds is recorded once. -/
structure Records (bus : Bus Handler) (kinds : List EventKind) : Prop extends bus.Quiet where
  once : ∀ kind ∈ kinds, bus.recorders kind = 1

variable {bus : Bus Handler}

theorem Quiet.handlers (quiet : bus.Quiet) (kind : EventKind) :
    ∀ handler ∈ bus.handlers kind, handler.isQuiet = true := by
  intro handler member
  obtain ⟨subscription, among, rfl⟩ := List.mem_map.1 member
  exact quiet.listeners subscription (List.mem_filter.1 among).1

/-- A bus with nobody but a recorder of some kinds of events. -/
def recording (kinds : List EventKind) : Bus Handler where
  subscriptions := kinds.map (·, .record)

theorem recorders_recording (kinds : List EventKind) (kind : EventKind) :
    (recording kinds).recorders kind = kinds.count kind := by
  induction kinds with
  | nil => rfl
  | cons other rest ih =>
      simp only [recorders, handlers, recording] at ih
      by_cases same : other = kind <;> simp [recorders, handlers, recording, same, ih]

theorem records_recording {kinds : List EventKind} (distinct : kinds.Nodup) :
    (recording kinds).Records kinds where
  listeners := by
    intro subscription member
    obtain ⟨kind, _, rfl⟩ := List.mem_map.1 member
    rfl
  room := show (0 : Int) < maxDepth by decide
  once := by
    intro kind member
    rw [recorders_recording]
    exact List.count_eq_one_of_mem distinct member

/-- Whoever watches the focus as well only notes events, too. -/
theorem Quiet.watched (quiet : bus.Quiet) (kind : EventKind) :
    (bus.subscribe kind .watchFocus).Quiet where
  listeners := by
    intro subscription member
    rcases List.mem_append.1 member with old | new
    · exact quiet.listeners subscription old
    · rw [List.mem_singleton.1 new]
      rfl
  room := quiet.room

theorem watches_subscribe (bus : Bus Handler) (kind : EventKind) :
    (bus.subscribe kind .watchFocus).watches kind = true := by
  simp [watches, handlers, subscribe]

/-- Whoever watches the focus as well takes nothing from the record. -/
theorem Records.watched {kinds : List EventKind} (records : bus.Records kinds) (kind : EventKind) :
    (bus.subscribe kind .watchFocus).Records kinds where
  toQuiet := records.toQuiet.watched kind
  once := by
    intro other member
    rw [← records.once other member]
    by_cases same : kind = other <;> simp [recorders, Bus.handlers, subscribe, same]

end Bus

namespace World

variable {world : World}

/-- Quiet handlers note an event one after the other; none of them emits anything. -/
theorem deliver_of_quiet (emit : Event → World → World) (event : Event) {handlers : List Handler}
    (quiet : ∀ handler ∈ handlers, handler.isQuiet = true) (world : World) :
    handlers.foldl (delivery.deliverTo emit event) world =
      { world with
        journal := world.journal ++ List.replicate (handlers.count .record) event
        focusMoved := world.focusMoved || decide (.watchFocus ∈ handlers) } := by
  induction handlers generalizing world with
  | nil => simp
  | cons handler rest ih =>
      obtain ⟨first, others⟩ := List.forall_mem_cons.1 quiet
      rw [List.foldl_cons]
      cases handler with
      | record =>
          refine (ih others { world with journal := world.journal ++ [event] }).trans ?_
          simp [List.replicate_succ]
      | watchFocus =>
          refine (ih others { world with focusMoved := true }).trans ?_
          simp
      | react => cases first

/-- To quiet listeners an event only adds itself to the journal, as often as it is recorded, and those
who watch the focus note that it has moved. -/
theorem emit_eq_of_quiet (quiet : world.bus.Quiet) (event : Event) :
    world.emit event =
      { world with
        journal := world.journal ++ List.replicate (world.bus.recorders event.kind) event
        focusMoved := world.focusMoved || world.bus.watches event.kind } := by
  have noted := deliver_of_quiet (delivery.emit maxDepth) event (quiet.handlers event.kind)
    (delivery.shiftDepth 1 world)
  calc world.emit event
      = delivery.shiftDepth (-1) ((world.bus.handlers event.kind).foldl
          (delivery.deliverTo (delivery.emit maxDepth) event) (delivery.shiftDepth 1 world)) :=
        Delivery.emit_of_room quiet.room maxDepth event
    _ = { world with
          journal := world.journal ++ List.replicate (world.bus.recorders event.kind) event
          focusMoved := world.focusMoved || world.bus.watches event.kind } := by
        rw [noted]
        simp only [Delivery.shiftDepth, delivery, Bus.recorders, Bus.watches, Int.add_neg_cancel_right]

theorem quiet_emit (quiet : world.bus.Quiet) (event : Event) : (world.emit event).bus.Quiet := by
  rw [emit_eq_of_quiet quiet]
  exact quiet

theorem emit_of_quiet (quiet : world.bus.Quiet) (event : Event) :
    ∃ focusMoved, world.emit event =
      { world with
        journal := world.journal ++ List.replicate (world.bus.recorders event.kind) event
        focusMoved } :=
  ⟨_, emit_eq_of_quiet quiet event⟩

/-- An event of a kind that is recorded once is the next in the journal. -/
theorem emit_of_records {kinds : List EventKind} (records : world.bus.Records kinds) {event : Event}
    (recorded : event.kind ∈ kinds) :
    ∃ focusMoved, world.emit event =
      { world with journal := world.journal ++ [event], focusMoved } := by
  obtain ⟨focusMoved, noted⟩ := emit_of_quiet records.toQuiet event
  rw [records.once event.kind recorded] at noted
  exact ⟨focusMoved, noted⟩

/-- Events of kinds that are recorded once come to stand in the journal in their order. -/
theorem journal_emits_of_records {kinds : List EventKind} (records : world.bus.Records kinds)
    {events : List Event} (recorded : ∀ event ∈ events, event.kind ∈ kinds) :
    (events.foldl (fun world event => world.emit event) world).journal = world.journal ++ events := by
  induction events generalizing world with
  | nil => simp
  | cons event rest ih =>
      obtain ⟨first, others⟩ := List.forall_mem_cons.1 recorded
      obtain ⟨focusMoved, noted⟩ := emit_of_records records first
      rw [List.foldl_cons, noted]
      refine (@ih { world with journal := world.journal ++ [event], focusMoved } records others).trans ?_
      exact List.append_assoc _ _ _

end World

end Narrative
