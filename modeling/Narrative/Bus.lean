/-
Module: Narrative.Bus
Purpose: Delivery of events to handlers, in the order of their subscription and nested up to a
  limit.
Main exports: Bus, Bus.subscribe, Bus.unsubscribe?, Bus.clear, Bus.handlers, Delivery, Delivery.emit,
  maxDepth
-/
import Narrative.Event
import Narrative.Log

namespace Narrative

/-- The number of deliveries that may be in progress at the same time. -/
def maxDepth : Nat := 8

/-- The subscriptions of handlers to kinds of events, in order, and the number of deliveries that
are in progress. -/
structure Bus (η : Type) where
  subscriptions : List (EventKind × η) := []
  depth : Int := 0
deriving Repr

namespace Bus

variable {η : Type}

/-- Adds a handler for a kind of events, after those that are there. -/
def subscribe (bus : Bus η) (kind : EventKind) (handler : η) : Bus η :=
  { bus with subscriptions := bus.subscriptions ++ [(kind, handler)] }

/-- Removes the first subscription of a handler to a kind of events, if there is one. -/
def unsubscribe? [DecidableEq η] (bus : Bus η) (kind : EventKind) (handler : η) :
    Option (Bus η) :=
  if (kind, handler) ∈ bus.subscriptions then
    some { bus with subscriptions := bus.subscriptions.erase (kind, handler) }
  else none

/-- Removes all subscriptions. No delivery counts as being in progress any more. -/
def clear (_ : Bus η) : Bus η := {}

/-- The handlers of a kind of events, in the order of their subscription. -/
def handlers (bus : Bus η) (kind : EventKind) : List η :=
  (bus.subscriptions.filter (·.1 = kind)).map (·.2)

/-- The number of subscriptions. -/
def count (bus : Bus η) : Nat := bus.subscriptions.length

end Bus

/-! ### Records about deliveries -/

/-- The record of an event that is not delivered since too many deliveries are in progress. -/
def droppedRecord (event : Event) : LogRecord :=
  ⟨.warning, .events, "Event depth exceeded (" ++ toString maxDepth ++ "), dropping " ++ event.text⟩

/-- The record of a handler that failed. -/
def failedRecord (name : String) (event : Event) : LogRecord :=
  ⟨.error, .events, "Event handler failed: " ++ name ++ " (event=" ++ event.text ++ ")"⟩

/-- The record of a handler that was to be removed and is not there. -/
def unknownHandlerRecord (kind : EventKind) (name : String) : LogRecord :=
  ⟨.warning, .events, "Handler not subscribed to " ++ kind.name ++ ": <" ++ name ++ ">"⟩

/-! ### Delivery -/

/-- What events are delivered in: a state with a bus and a log, and what a handler does to it. A
handler may emit events of its own, by the function that it is given; the flag says whether it
failed. -/
structure Delivery (σ η : Type) where
  bus : σ → Bus η
  setBus : Bus η → σ → σ
  log : LogRecord → σ → σ
  name : η → String
  call : (Event → σ → σ) → η → Event → σ → σ × Bool

namespace Delivery

variable {σ η : Type}

/-- Changes the number of deliveries in progress. -/
def shiftDepth (delivery : Delivery σ η) (change : Int) (state : σ) : σ :=
  let bus := delivery.bus state
  delivery.setBus { bus with depth := bus.depth + change } state

/-- Calls one handler, and records its failure. -/
def deliverTo (delivery : Delivery σ η) (emit : Event → σ → σ) (event : Event) (state : σ)
    (handler : η) : σ :=
  let (state, failed) := delivery.call emit handler event state
  if failed then delivery.log (failedRecord (delivery.name handler) event) state else state

/-- Emits an event: the handlers that are subscribed at this moment are called one after the other,
unless too many deliveries are in progress. The number bounds how deeply emissions nest; beyond it
nothing happens. -/
def emit (delivery : Delivery σ η) : (nesting : Nat) → Event → σ → σ
  | 0, _, state => state
  | nesting + 1, event, state =>
    let bus := delivery.bus state
    if bus.depth ≥ maxDepth then delivery.log (droppedRecord event) state
    else
      let inside := delivery.shiftDepth 1 state
      let delivered :=
        (bus.handlers event.kind).foldl (delivery.deliverTo (delivery.emit nesting) event) inside
      delivery.shiftDepth (-1) delivered

end Delivery

end Narrative
