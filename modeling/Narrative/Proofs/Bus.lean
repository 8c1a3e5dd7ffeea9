/-
Module: Narrative.Proofs.Bus
Purpose: What the delivery of events keeps: a property of the state that no handler breaks, however
  deeply emissions nest.
Main exports: Delivery.emit_keeps, Delivery.emit_of_room
-/
import Narrative.Bus

namespace Narrative.Delivery

variable {σ η : Type} {delivery : Delivery σ η} {Kept : σ → Prop}

theorem deliverTo_keeps {emit : Event → σ → σ} {event : Event} {handler : η}
    (log : ∀ record state, record.source = .events → Kept state →
      Kept (delivery.log record state))
    (call : ∀ state, Kept state → Kept (delivery.call emit handler event state).1)
    {state : σ} (kept : Kept state) : Kept (delivery.deliverTo emit event state handler) := by
  have answered := call state kept
  unfold deliverTo
  split
  next after failed called =>
    rw [called] at answered
    cases failed with
    | false => exact answered
    | true => exact log _ after rfl answered

/-- What the handlers keep that may be subscribed, as long as the events that they emit themselves keep
it, every emission keeps. The induction is on the nesting: inside a delivery, a handler emits with one
less of it. -/
theorem emit_keeps {Fits : η → Prop}
    (listed : ∀ state, Kept state →
      ∀ subscription ∈ (delivery.bus state).subscriptions, Fits subscription.2)
    (shift : ∀ change state, Kept state → Kept (delivery.shiftDepth change state))
    (log : ∀ record state, record.source = .events → Kept state →
      Kept (delivery.log record state))
    (call : ∀ emit, (∀ event state, Kept state → Kept (emit event state)) →
      ∀ handler, Fits handler →
        ∀ event state, Kept state → Kept (delivery.call emit handler event state).1)
    (nesting : Nat) (event : Event) {state : σ} (kept : Kept state) :
    Kept (delivery.emit nesting event state) := by
  induction nesting generalizing event state with
  | zero => exact kept
  | succ nesting ih =>
      unfold emit
      dsimp only
      split
      · exact log _ state rfl kept
      · apply shift
        apply List.foldlRecOn
        · exact shift 1 state kept
        · intro inside kept_inside handler member
          apply deliverTo_keeps log _ kept_inside
          obtain ⟨subscription, among, rfl⟩ := List.mem_map.1 member
          have fits := listed state kept subscription (List.mem_filter.1 among).1
          exact call _ (fun event state kept => ih event kept) _ fits event

/-- With room for one more delivery, an event goes to all handlers of its kind. -/
theorem emit_of_room {state : σ} (room : (delivery.bus state).depth < maxDepth) (nesting : Nat)
    (event : Event) : delivery.emit (nesting + 1) event state =
      delivery.shiftDepth (-1) (((delivery.bus state).handlers event.kind).foldl
        (delivery.deliverTo (delivery.emit nesting) event) (delivery.shiftDepth 1 state)) := by
  rw [emit]
  exact if_neg (Int.not_le.2 room)

end Narrative.Delivery
