/-
Module: Narrative.Proofs.Switchboard.Operations
Purpose: What is done with a switchboard, operation by operation, and what a handler of a table does
  when it is called: it acts on the board by itself, or it emits an event in turn.
Main exports: ReactionTable.reaction, Reaction.next?, Reaction.settle, Switchboard.Operation,
  Switchboard.operate, Switchboard.operateAll, Switchboard.deliverTo_eq
-/
import Narrative.Proofs.Bus
import Narrative.Switchboard

namespace Narrative

/-! ### Reactions -/

/-- What a handler does. One that the table does not list only has its call noted. -/
def ReactionTable.reaction (table : ReactionTable) (name : String) : Reaction :=
  (table.lookup name).getD .record

/-- No handler removes all subscriptions. -/
def ReactionTable.NeverClears (table : ReactionTable) : Prop :=
  ∀ name, table.reaction name ≠ .clear

theorem ReactionTable.neverClears_of_forall {table : ReactionTable}
    (each : ∀ entry ∈ table, entry.2 ≠ .clear) : table.NeverClears := by
  intro name
  unfold reaction
  cases found : table.lookup name with
  | none => simp
  | some reaction =>
      obtain ⟨before, after, rfl, _⟩ := List.lookup_eq_some_iff.1 found
      exact each (name, reaction) (by simp)

/-- The event that a handler emits in turn. -/
def Reaction.next? (event : Event) : Reaction → Option Event
  | .emit next => some next
  | .echo => some event
  | .record | .fail | .subscribe .. | .unsubscribe .. | .clear => none

namespace Switchboard

/-- Notes the call of a handler. -/
def called (name : String) (event : Event) (board : Switchboard) : Switchboard :=
  { board with calls := board.calls ++ [(name, event)] }

end Switchboard

/-- What a handler does to the board by itself. -/
def Reaction.settle (name : String) (event : Event) (board : Switchboard) : Reaction → Switchboard
  | .record | .emit _ | .echo => board
  | .fail => board.note (failedRecord name event)
  | .subscribe kind other => board.subscribe kind other
  | .unsubscribe kind other => board.unsubscribe kind other
  | .clear => board.clear

namespace Switchboard

/-- To deliver an event to a handler is to note the call, and to emit what the handler emits or to do
what it does by itself. -/
theorem deliverTo_eq (table : ReactionTable) (emit : Event → Switchboard → Switchboard)
    (event : Event) (board : Switchboard) (name : String) :
    (delivery table).deliverTo emit event board name =
      match (table.reaction name).next? event with
      | some next => emit next (board.called name event)
      | none => (table.reaction name).settle name event (board.called name event) := by
  unfold Delivery.deliverTo delivery react ReactionTable.reaction
  dsimp only
  cases (table.lookup name).getD .record <;> rfl

theorem depth_shiftDepth (table : ReactionTable) (change : Int) (board : Switchboard) :
    ((delivery table).shiftDepth change board).bus.depth = board.bus.depth + change := rfl

/-! ### Operations -/

/-- What can be done with a switchboard. -/
inductive Operation where
  | subscribe (kind : EventKind) (name : String)
  | unsubscribe (kind : EventKind) (name : String)
  | emit (event : Event)
  | clear
deriving Repr, DecidableEq

/-- The board after an operation. -/
def operate (table : ReactionTable) (board : Switchboard) : Operation → Switchboard
  | .subscribe kind name => board.subscribe kind name
  | .unsubscribe kind name => board.unsubscribe kind name
  | .emit event => board.emit table event
  | .clear => board.clear

/-- The board after operations, one after the other. -/
def operateAll (table : ReactionTable) (board : Switchboard) (operations : List Operation) :
    Switchboard :=
  operations.foldl (operate table) board

theorem depth_unsubscribe (kind : EventKind) (name : String) (board : Switchboard) :
    (board.unsubscribe kind name).bus.depth = board.bus.depth := by
  unfold unsubscribe Bus.unsubscribe?
  split
  next found =>
    split at found
    · cases found
      rfl
    · cases found
  next => rfl

end Switchboard

end Narrative
