/-
Module: Narrative.Proofs.Switchboard.Rules
Purpose: The rules of delivery, said of what is known of a switchboard from outside: who is subscribed to
  what, who was called with what, and what was recorded. They keep the subscriptions in a list of their
  own and count the deliveries in progress themselves, and they know no bound on the nesting but the limit
  on what is in progress.
Main exports: Switchboard.Ledger, Switchboard.Leaves, Switchboard.Settles, Switchboard.Emits,
  Switchboard.Serves, Switchboard.Does, Switchboard.Passes
-/
import Narrative.Proofs.Switchboard.Operations

namespace Narrative.Switchboard

/-- What is known of a switchboard: the subscriptions, the calls and the records, each from the first to
the last. -/
structure Ledger where
  subscribed : List (EventKind × String) := []
  calls : List (String × Event) := []
  records : List LogRecord := []
deriving Repr, DecidableEq

namespace Ledger

/-- One record more. -/
def record (entry : LogRecord) (ledger : Ledger) : Ledger :=
  { ledger with records := ledger.records ++ [entry] }

/-- One call more. -/
def call (name : String) (event : Event) (ledger : Ledger) : Ledger :=
  { ledger with calls := ledger.calls ++ [(name, event)] }

/-- One subscription more, behind all others. -/
def join (kind : EventKind) (name : String) (ledger : Ledger) : Ledger :=
  { ledger with subscribed := ledger.subscribed ++ [(kind, name)] }

/-- Those who are subscribed to a kind of events, once for each of their subscriptions. -/
def subscribers (kind : EventKind) (ledger : Ledger) : List String :=
  (ledger.subscribed.filter (·.1 = kind)).map (·.2)

end Ledger

/-! ### What a handler does by itself -/

/-- A subscription is taken back: the first of those that are equal to it. If there is none, that is
recorded. -/
inductive Leaves (kind : EventKind) (name : String) (ledger : Ledger) : Ledger → Prop
  | first {before after : List (EventKind × String)}
      (listed : ledger.subscribed = before ++ (kind, name) :: after)
      (earlier : (kind, name) ∉ before) :
      Leaves kind name ledger { ledger with subscribed := before ++ after }
  | missing (unlisted : (kind, name) ∉ ledger.subscribed) :
      Leaves kind name ledger (ledger.record
        ⟨.warning, .events, "Handler not subscribed to " ++ kind.name ++ ": <" ++ name ++ ">"⟩)

/-- What a handler does that emits nothing, after its call was noted: nothing more, it fails, which is
recorded, or it subscribes somebody or takes a subscription back. -/
inductive Settles (name : String) (event : Event) (ledger : Ledger) : Reaction → Ledger → Prop
  | record : Settles name event ledger .record ledger
  | fail : Settles name event ledger .fail (ledger.record
      ⟨.error, .events, "Event handler failed: " ++ name ++ " (event=" ++ event.text ++ ")"⟩)
  | subscribe (kind : EventKind) (other : String) :
      Settles name event ledger (.subscribe kind other) (ledger.join kind other)
  | unsubscribe {kind : EventKind} {other : String} {after : Ledger}
      (leaves : Leaves kind other ledger after) :
      Settles name event ledger (.unsubscribe kind other) after

/-! ### Emissions -/

mutual

/-- What an emission leads to while a number of deliveries is in progress. With eight in progress the
event is dropped: nobody is called, and one warning is written. With fewer, those who are subscribed to
its kind at this moment are served. -/
inductive Emits (table : ReactionTable) : Nat → Event → Ledger → Ledger → Prop
  | dropped {event : Event} {ledger : Ledger} :
      Emits table 8 event ledger (ledger.record
        ⟨.warning, .events, "Event depth exceeded (8), dropping " ++ event.text⟩)
  | delivered {inProgress : Nat} {event : Event} {ledger after : Ledger} (room : inProgress < 8)
      (served : Serves table (inProgress + 1) event (ledger.subscribers event.kind) ledger after) :
      Emits table inProgress event ledger after

/-- What it leads to that handlers are called with an event, each of them once and in order. What a
handler emits is over before the next one is called. -/
inductive Serves (table : ReactionTable) : Nat → Event → List String → Ledger → Ledger → Prop
  | nobody {inProgress : Nat} {event : Event} {ledger : Ledger} :
      Serves table inProgress event [] ledger ledger
  | silent {inProgress : Nat} {event : Event} {name : String} {others : List String}
      {ledger between after : Ledger}
      (settles : Settles name event (ledger.call name event) (table.reaction name) between)
      (rest : Serves table inProgress event others between after) :
      Serves table inProgress event (name :: others) ledger after
  | emitting {inProgress : Nat} {event next : Event} {name : String} {others : List String}
      {ledger between after : Ledger} (emits : (table.reaction name).next? event = some next)
      (inner : Emits table inProgress next (ledger.call name event) between)
      (rest : Serves table inProgress event others between after) :
      Serves table inProgress event (name :: others) ledger after

end

/-! ### Operations -/

/-- What an operation does between deliveries. -/
def Does (table : ReactionTable) (ledger after : Ledger) : Operation → Prop
  | .subscribe kind name => after = ledger.join kind name
  | .unsubscribe kind name => Leaves kind name ledger after
  | .emit event => Emits table 0 event ledger after
  | .clear => after = { ledger with subscribed := [] }

/-- What operations do, one after the other. -/
inductive Passes (table : ReactionTable) : Ledger → List Operation → Ledger → Prop
  | done {ledger : Ledger} : Passes table ledger [] ledger
  | step {ledger between after : Ledger} {operation : Operation} {operations : List Operation}
      (does : Does table ledger between operation) (rest : Passes table between operations after) :
      Passes table ledger (operation :: operations) after

end Narrative.Switchboard
