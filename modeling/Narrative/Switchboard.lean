/-
Module: Narrative.Switchboard
Purpose: A bus whose handlers are known by name and do what a table says, to rehearse deliveries.
Main exports: Reaction, Switchboard, Switchboard.delivery, Switchboard.emit, Switchboard.react
-/
import Narrative.Bus

namespace Narrative

/-- What a handler does when it is called, after its call was noted. -/
inductive Reaction where
  | record
  | fail
  | emit (event : Event)
  | echo
  | subscribe (kind : EventKind) (name : String)
  | unsubscribe (kind : EventKind) (name : String)
  | clear
deriving Repr, DecidableEq

/-- The reactions of the handlers, by name. -/
abbrev ReactionTable := List (String × Reaction)

/-- A bus with named handlers, the calls that were made and the records that were written, both from
the first to the last. -/
structure Switchboard where
  bus : Bus String := {}
  calls : List (String × Event) := []
  log : List LogRecord := []
deriving Repr

namespace Switchboard

/-- Writes a record. -/
def note (record : LogRecord) (board : Switchboard) : Switchboard :=
  { board with log := board.log ++ [record] }

/-- Adds a handler for a kind of events. -/
def subscribe (kind : EventKind) (name : String) (board : Switchboard) : Switchboard :=
  { board with bus := board.bus.subscribe kind name }

/-- Removes a handler for a kind of events; if it is not there, that is recorded. -/
def unsubscribe (kind : EventKind) (name : String) (board : Switchboard) : Switchboard :=
  match board.bus.unsubscribe? kind name with
  | some bus => { board with bus }
  | none => board.note (unknownHandlerRecord kind name)

/-- Removes all handlers. -/
def clear (board : Switchboard) : Switchboard := { board with bus := board.bus.clear }

/-- What a handler does about an event. A handler that the table does not list only has its call
noted. -/
def react (table : ReactionTable) (emit : Event → Switchboard → Switchboard) (name : String)
    (event : Event) (board : Switchboard) : Switchboard × Bool :=
  let board := { board with calls := board.calls ++ [(name, event)] }
  match (table.lookup name).getD .record with
  | .record => (board, false)
  | .fail => (board, true)
  | .emit next => (emit next board, false)
  | .echo => (emit event board, false)
  | .subscribe kind other => (board.subscribe kind other, false)
  | .unsubscribe kind other => (board.unsubscribe kind other, false)
  | .clear => (board.clear, false)

/-- The delivery of events to the handlers of a table. -/
def delivery (table : ReactionTable) : Delivery Switchboard String where
  bus board := board.bus
  setBus bus board := { board with bus }
  log := note
  name handler := handler
  call := react table

/-- How much deeper emissions may nest after handlers have removed all subscriptions, which ends the
count of what is in progress. -/
def nestingAfterClear : Nat := 1000

/-- How deeply emissions may nest. Unless a handler removes all subscriptions, the limit on what is
in progress is reached first. -/
def nesting (board : Switchboard) : Nat :=
  (maxDepth + 1 - board.bus.depth).toNat + nestingAfterClear

/-- Emits an event. -/
def emit (table : ReactionTable) (event : Event) (board : Switchboard) : Switchboard :=
  (delivery table).emit board.nesting event board

end Switchboard

end Narrative
