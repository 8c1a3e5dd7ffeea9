/-
Module: Narrative.Proofs.World.Stable
Purpose: Properties of worlds that no impact, event or move of the focus breaks. It is enough to look
  at the few changes that these are made of. Some properties are kept only as long as everybody who
  listens applies impacts of some kind only; others are kept whoever listens.
Main exports: Bus.Within, World.Guarded, World.Guarded.emit, World.Guarded.applyImpacts,
  World.Stable, World.Stable.emit, World.Stable.applyImpacts, World.Stable.setFocus
-/
import Narrative.Proofs.Bus
import Narrative.Proofs.Outcome
import Narrative.World.Change

namespace Narrative

/-- The handler applies impacts of some kind only. -/
def Handler.Within (Allowed : Impact → Prop) : Handler → Prop
  | .react _ _ impacts => ∀ impact ∈ impacts, Allowed impact
  | .record | .watchFocus => True

/-- All who listen apply impacts of some kind only. -/
def Bus.Within (Allowed : Impact → Prop) (bus : Bus Handler) : Prop :=
  ∀ subscription ∈ bus.subscriptions, subscription.2.Within Allowed

theorem Bus.within_true (bus : Bus Handler) : bus.Within fun _ => True := by
  intro subscription _
  cases subscription.2 with
  | record | watchFocus => trivial
  | react => exact fun _ _ => trivial

namespace World

/-- The property is kept when an impact of some kind changes what a holder has, when the focus moves to
a location that fits, as every location that a key names does, whatever the journal holds, when a record
about an event is written, and however many deliveries are in progress. All who listen apply impacts of
that kind only. -/
structure Guarded (Allowed : Impact → Prop) (Fits : Nat → Prop) (Kept : World → Prop) : Prop where
  listeners : ∀ {world : World}, Kept world → world.bus.Within Allowed
  turn : ∀ {world : World} {holder : Holder} {manipulation : Manipulation} {reference : Reference}
    {tags : TagSet}, Kept world → Allowed (.manipulate manipulation reference) →
    (world.tagsOf holder).apply reference.property manipulation = (tags, true) →
    Kept (world.setTags tags holder)
  fits : ∀ {world : World} {key : String} {location : Nat}, Kept world →
    world.resolveLocation? key = some location → Fits location
  focus : ∀ {world : World} {location : Nat}, Fits location → Kept world →
    Kept { world with focus := location }
  shift : ∀ {world : World} (depth : Int), Kept world →
    Kept { world with bus := { world.bus with depth } }
  note : ∀ {world : World} (journal : List Event) (focusMoved : Bool), Kept world →
    Kept { world with journal, focusMoved }
  record : ∀ {world : World} {record : LogRecord}, record.source = .events → Kept world →
    Kept { world with log := world.log ++ [record] }

namespace Guarded

variable {Allowed : Impact → Prop} {Fits : Nat → Prop} {Kept : World → Prop}
  (guarded : Guarded Allowed Fits Kept)

/-! ### With any emission that keeps the property -/

section

variable {emit : Event → World → World}
  (emits : ∀ event world, Kept world → Kept (emit event world))

include guarded emits

theorem manipulate {world : World} (kept : Kept world) {manipulation : Manipulation}
    {reference : Reference} (allowed : Allowed (.manipulate manipulation reference))
    (holder : Holder) : Kept (world.manipulate emit manipulation reference.property holder) := by
  unfold World.manipulate
  dsimp only
  split
  next changed =>
    apply emits
    exact guarded.turn kept allowed (Prod.ext rfl changed)
  next => exact kept

theorem moveFocus {world : World} (kept : Kept world) {location : Nat} (fits : Fits location) :
    Kept (world.moveFocus emit location) := by
  unfold World.moveFocus
  split
  · exact kept
  · apply emits
    apply emits
    apply guarded.focus fits
    exact emits _ world kept

theorem applyWith {world after : World} (kept : Kept world) {source : Nat} {impact : Impact}
    (allowed : Allowed impact) (applied : world.applyWith emit source impact = .ok after) :
    Kept after := by
  cases impact with
  | manipulate manipulation reference =>
      obtain ⟨holder, _, changed⟩ := bind_eq_ok.1 applied
      cases changed
      exact guarded.manipulate emits kept allowed holder
  | focus key =>
      simp only [World.applyWith] at applied
      cases found : world.resolveLocation? key with
      | none => simp [found] at applied
      | some location =>
          rw [found] at applied
          cases applied
          exact guarded.moveFocus emits kept (guarded.fits kept found)
  | event reference =>
      obtain ⟨holder, _, sent⟩ := bind_eq_ok.1 applied
      obtain ⟨event, _, emitted⟩ := bind_eq_ok.1 sent
      cases emitted
      exact emits event world kept

theorem applyAllWith {world : World} (kept : Kept world) (source : Nat) {impacts : List Impact}
    (allowed : ∀ impact ∈ impacts, Allowed impact) :
    Kept (world.applyAllWith emit source impacts).1 := by
  induction impacts generalizing world with
  | nil => exact kept
  | cons impact rest ih =>
      obtain ⟨first, others⟩ := List.forall_mem_cons.1 allowed
      simp only [World.applyAllWith]
      cases applied : world.applyWith emit source impact with
      | error error => exact kept
      | ok after => exact ih (guarded.applyWith emits kept first applied) others

end

/-! ### With the emission to the listeners -/

include guarded

theorem emit {world : World} (kept : Kept world) (event : Event) : Kept (world.emit event) := by
  apply Delivery.emit_keeps
  · intro world kept
    exact guarded.listeners kept
  · intro change world kept
    exact guarded.shift _ kept
  · intro record world aboutEvents kept
    exact guarded.record aboutEvents kept
  · intro emit emits handler within event world kept
    cases handler with
    | record => exact guarded.note _ world.focusMoved kept
    | watchFocus => exact guarded.note world.journal true kept
    | react name source impacts => exact guarded.applyAllWith emits kept source within
  · exact kept

theorem applyImpact {world after : World} (kept : Kept world) {source : Nat} {impact : Impact}
    (allowed : Allowed impact) (applied : world.applyImpact source impact = .ok after) : Kept after :=
  guarded.applyWith (fun event _ kept => guarded.emit kept event) kept allowed applied

theorem applyImpacts {world : World} (kept : Kept world) (source : Nat) {impacts : List Impact}
    (allowed : ∀ impact ∈ impacts, Allowed impact) : Kept (world.applyImpacts source impacts).1 :=
  guarded.applyAllWith (fun event _ kept => guarded.emit kept event) kept source allowed

theorem evaluate {world : World} {top : NodePath} {counts : Bool}
    (kept : Kept (world.collect top counts).1)
    (allowed : ∀ harvest, (world.collect top counts).2 = .ok harvest →
      ∀ impact ∈ harvest.impacts, Allowed impact) : Kept (world.evaluate top counts).1 := by
  unfold World.evaluate
  dsimp only
  split
  next after error stopped =>
    rw [stopped] at kept
    exact kept
  next after harvest told =>
    rw [told] at kept
    exact guarded.applyImpacts kept _ (allowed harvest (by rw [told]))

theorem setFocus {world : World} (kept : Kept world) {location : Nat} (fits : Fits location) :
    Kept (world.setFocus location) :=
  guarded.moveFocus (fun event _ kept => guarded.emit kept event) kept fits

end Guarded

/-- The property is kept when a holder gets other tags, when the focus moves to a location that fits,
as every location that a key names does, and whatever the bus, the journal and the log hold. -/
structure Stable (Fits : Nat → Prop) (Kept : World → Prop) : Prop where
  setTags : ∀ {world : World} (tags : TagSet) (holder : Holder), Kept world →
    Kept (world.setTags tags holder)
  fits : ∀ {world : World} {key : String} {location : Nat}, Kept world →
    world.resolveLocation? key = some location → Fits location
  focus : ∀ {world : World} {location : Nat}, Fits location → Kept world →
    Kept { world with focus := location }
  books : ∀ {world : World} (bus : Bus Handler) (journal : List Event) (focusMoved : Bool)
    (log : List LogRecord), Kept world → Kept { world with bus, journal, focusMoved, log }

namespace Stable

variable {Fits : Nat → Prop} {Kept : World → Prop} (stable : Stable Fits Kept)

include stable

/-- What is kept whoever listens needs no guard. -/
theorem guarded : Guarded (fun _ => True) Fits Kept where
  listeners {world} _ := world.bus.within_true
  turn kept _ _ := stable.setTags _ _ kept
  fits := stable.fits
  focus := stable.focus
  shift {world} depth kept :=
    stable.books { world.bus with depth } world.journal world.focusMoved world.log kept
  note {world} journal focusMoved kept := stable.books world.bus journal focusMoved world.log kept
  record {world} _ _ kept := stable.books world.bus world.journal world.focusMoved _ kept

theorem emit {world : World} (kept : Kept world) (event : Event) : Kept (world.emit event) :=
  stable.guarded.emit kept event

theorem applyImpact {world after : World} (kept : Kept world) {source : Nat} {impact : Impact}
    (applied : world.applyImpact source impact = .ok after) : Kept after :=
  stable.guarded.applyImpact kept trivial applied

theorem applyImpacts {world : World} (kept : Kept world) (source : Nat) (impacts : List Impact) :
    Kept (world.applyImpacts source impacts).1 :=
  stable.guarded.applyImpacts kept source fun _ _ => trivial

theorem evaluate {world : World} {top : NodePath} {counts : Bool}
    (kept : Kept (world.collect top counts).1) : Kept (world.evaluate top counts).1 :=
  stable.guarded.evaluate kept fun _ _ _ _ => trivial

theorem setFocus {world : World} (kept : Kept world) {location : Nat} (fits : Fits location) :
    Kept (world.setFocus location) :=
  stable.guarded.setFocus kept fits

end Stable

end World

end Narrative
