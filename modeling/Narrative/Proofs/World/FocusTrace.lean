/-
Module: Narrative.Proofs.World.FocusTrace
Purpose: The events of the focus. They tell of one way through the locations: it begins at the start,
  each move leaves the location that the move before came to, and its end is where the focus is.
Main exports: Event.isOfFocus, FocusTrace, World.focusEvents, World.Traced, World.chronicle_traced,
  Model.World.traced_of_build
-/
import Narrative.Proofs.World.Chronicle
import Narrative.Proofs.World.Listeners

namespace Narrative

/-- The kinds of events that tell of the focus. -/
def EventKind.ofFocus : List EventKind := [.focusLost, .focusChanged, .focusGained]

/-- Whether an event tells of the focus. -/
def Event.isOfFocus (event : Event) : Bool := event.kind ∈ EventKind.ofFocus

/-- The events of a way through locations, from the start to a focus. It begins by coming from nowhere.
In each move a location loses the focus, the focus changes, and another location gains it. -/
inductive FocusTrace (IsLocation : Nat → Prop) (start : Nat) : List Event → Nat → Prop
  | begins (located : IsLocation start) :
      FocusTrace IsLocation start [.focusChanged none start, .focusGained start] start
  | moves {events : List Event} {previous current : Nat}
      (trace : FocusTrace IsLocation start events previous) (differs : previous ≠ current)
      (located : IsLocation current) :
      FocusTrace IsLocation start
        (events ++ [.focusLost previous, .focusChanged (some previous) current, .focusGained current])
        current

namespace World

variable {world : World}

/-- The events in the journal that tell of the focus. -/
def focusEvents (world : World) : List Event := world.journal.filter (·.isOfFocus)

/-- The journal holds the events of a way from the start to where the focus is. -/
structure Traced (plan : World) (start : Nat) (world : World) : Prop where
  plan_eq : world.plan = plan
  records : world.bus.Records EventKind.ofFocus
  trace : FocusTrace plan.IsLocation start world.focusEvents world.focus

/-- An event of the focus is the next in the journal. -/
theorem emit_of_isOfFocus (world : World) (event : Event)
    (records : world.bus.Records EventKind.ofFocus) (isOfFocus : event.isOfFocus = true) :
    ∃ focusMoved, world.emit event = { world with journal := world.journal ++ [event], focusMoved } :=
  emit_of_records records (of_decide_eq_true isOfFocus)

/-- A move of the focus is in the journal as three events. -/
theorem setFocus_of_records (records : world.bus.Records EventKind.ofFocus) {location : Nat}
    (elsewhere : world.focus ≠ location) : ∃ focusMoved, world.setFocus location =
      { world with
        focus := location
        journal := world.journal ++ [.focusLost world.focus,
          .focusChanged (some world.focus) location, .focusGained location]
        focusMoved } := by
  obtain ⟨first, lost⟩ := emit_of_isOfFocus world (.focusLost world.focus) records rfl
  obtain ⟨second, changed⟩ := emit_of_isOfFocus
    { world with
      focus := location
      journal := world.journal ++ [.focusLost world.focus]
      focusMoved := first }
    (.focusChanged (some world.focus) location) records rfl
  obtain ⟨third, gained⟩ := emit_of_isOfFocus
    { world with
      focus := location
      journal := world.journal ++ [.focusLost world.focus] ++
        [.focusChanged (some world.focus) location]
      focusMoved := second }
    (.focusGained location) records rfl
  refine ⟨third, ?_⟩
  simp only [setFocus, moveFocus, if_neg elsewhere, lost, changed, gained]
  simp

/-- An event of another kind leaves the events of the focus as they were. -/
theorem focusEvents_emit_of_quiet (quiet : world.bus.Quiet) {event : Event}
    (other : event.isOfFocus = false) : (world.emit event).focusEvents = world.focusEvents := by
  obtain ⟨_, noted⟩ := emit_of_quiet quiet event
  rw [noted]
  simp [focusEvents, List.filter_append, other]

namespace Traced

variable {plan : World} {start : Nat}

/-- The bus, the focus, and the journal are all that the trace is judged by. -/
theorem of_same (traced : Traced plan start world) {after : World} (plans : after.plan = world.plan)
    (bus : after.bus = world.bus) (journal : after.journal = world.journal)
    (focus : after.focus = world.focus) : Traced plan start after where
  plan_eq := plans.trans traced.plan_eq
  records := bus ▸ traced.records
  trace := by
    have same : after.focusEvents = world.focusEvents := congrArg (List.filter _) journal
    rw [same, focus]
    exact traced.trace

theorem emit (traced : Traced plan start world) {event : Event} (other : event.isOfFocus = false) :
    Traced plan start (world.emit event) := by
  have same := focusEvents_emit_of_quiet traced.records.toQuiet other
  obtain ⟨_, noted⟩ := emit_of_quiet traced.records.toQuiet event
  rw [noted] at same ⊢
  exact ⟨traced.plan_eq, traced.records, same.symm ▸ traced.trace⟩

/-- A move of the focus adds its three events to the trace, and nothing if the focus is there
already. -/
theorem setFocus (traced : Traced plan start world) {location : Nat}
    (located : plan.IsLocation location) : Traced plan start (world.setFocus location) := by
  by_cases here : world.focus = location
  · have stays : world.setFocus location = world := if_pos here
    rw [stays]
    exact traced
  · obtain ⟨_, moved⟩ := setFocus_of_records traced.records here
    rw [moved]
    refine ⟨traced.plan_eq, traced.records, ?_⟩
    have trace := traced.trace.moves here located
    simpa [focusEvents, List.filter_append, Event.isOfFocus, Event.kind, EventKind.ofFocus] using trace

end Traced

/-- Whatever is done, the events of the focus stay a trace that ends where the focus is. -/
theorem chronicle_traced {plan : World} (well : plan.WellBuilt) (start : Nat) :
    Chronicle plan (Traced plan start) where
  well := well
  planned := Traced.plan_eq
  turn {world holder tag manipulation tags} traced _ _ := by
    have changed : Traced plan start (world.setTags tags holder) := by
      apply traced.of_same (plan_setTags world tags holder) <;> cases holder <;> rfl
    apply changed.emit
    cases holder <;> rfl
  move traced located := traced.setFocus located
  send traced kind := traced.emit (by simp [Event.isOfFocus, kind, EventKind.ofFocus])
  tell _ _ traced plans := traced.of_same plans rfl rfl rfl
  books _ _ traced := traced.of_same rfl rfl rfl rfl

end World

/-- The building of a world tells its listeners that the focus comes from nowhere to the start. -/
theorem Model.World.traced_of_build {model : Model.World} {bus : Bus Handler}
    {world : Narrative.World} (built : model.build bus = .ok world)
    (records : bus.Records EventKind.ofFocus) :
    ∃ start, world.resolveLocation? model.start = some start ∧
      Narrative.World.Traced world.plan start world := by
  obtain ⟨begun, _, _, _, rfl, empty, found, rfl⟩ := build_cases built
  obtain ⟨first, changed⟩ := World.emit_of_isOfFocus begun (.focusChanged none begun.focus) records rfl
  obtain ⟨second, gained⟩ := World.emit_of_isOfFocus
    { begun with journal := [.focusChanged none begun.focus], focusMoved := first }
    (.focusGained begun.focus) records rfl
  rw [empty, List.nil_append] at changed
  rw [changed, gained]
  have located := World.isLocation_of_resolveLocation? found
  refine ⟨begun.focus, found, rfl, records, ?_⟩
  exact .begins ((World.isLocation_plan _ _).2 located)

end Narrative
