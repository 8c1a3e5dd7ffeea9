/-
Module: Narrative.Proofs.Switchboard.Moments
Purpose: A switchboard at every moment of its life, also in the middle of deliveries: which of them are
  in progress, and how many the counter says there are. The two agree until a handler removes all
  subscriptions; from then on the counter overlooks the deliveries that were in progress.
Main exports: Switchboard.Moment, Switchboard.Reachable, Switchboard.Counted,
  Switchboard.arrives_emit, Switchboard.nesting_counted
-/
import Mathlib.Logic.Function.Iterate
import Narrative.Proofs.Switchboard.Operations

namespace Narrative.Switchboard

/-! ### Moments -/

/-- A delivery in progress: its event, and the handlers that have yet to be called. -/
structure Pending where
  event : Event
  waiting : List String
deriving Repr, DecidableEq

/-- A moment: the board, the deliveries in progress from the innermost to the outermost, and how many
of them were in progress when all subscriptions were last removed. -/
structure Moment where
  board : Switchboard := {}
  pending : List Pending := []
  overlooked : Nat := 0
deriving Repr

namespace Moment

/-- An event is emitted: its delivery begins, unless too many are counted as being in progress. -/
def emit (event : Event) (moment : Moment) : Moment :=
  if moment.board.bus.depth ≥ maxDepth then
    { moment with board := moment.board.note (droppedRecord event) }
  else
    let bus := moment.board.bus
    { moment with
      board := { moment.board with bus := { bus with depth := bus.depth + 1 } }
      pending := ⟨event, bus.handlers event.kind⟩ :: moment.pending }

theorem overlooked_emit (event : Event) (moment : Moment) :
    (moment.emit event).overlooked = moment.overlooked := by
  unfold emit
  split <;> rfl

theorem length_pending_emit (event : Event) (moment : Moment) :
    moment.pending.length ≤ (moment.emit event).pending.length := by
  unfold emit
  split <;> simp

/-- A handler that emits nothing does what it does. -/
def settle (name : String) (event : Event) (reaction : Reaction) (moment : Moment) : Moment :=
  { moment with
    board := reaction.settle name event moment.board
    overlooked := if reaction = .clear then moment.pending.length else moment.overlooked }

/-- The next moment: in the innermost delivery the next handler is called, and if there is none, that
delivery ends. -/
def advance (table : ReactionTable) (moment : Moment) : Moment :=
  match moment.pending with
  | [] => moment
  | ⟨_, []⟩ :: outer =>
    let bus := moment.board.bus
    { moment with
      board := { moment.board with bus := { bus with depth := bus.depth + -1 } }
      pending := outer }
  | ⟨event, name :: waiting⟩ :: outer =>
    let called : Moment :=
      { moment with
        board := moment.board.called name event
        pending := ⟨event, waiting⟩ :: outer }
    match (table.reaction name).next? event with
    | some next => called.emit next
    | none => called.settle name event (table.reaction name)

/-- What an operation does first. All but an emission is done with it. -/
def operate (table : ReactionTable) (moment : Moment) : Operation → Moment
  | .emit event => moment.emit event
  | .clear => { moment with board := moment.board.clear, overlooked := moment.pending.length }
  | operation => { moment with board := Switchboard.operate table moment.board operation }

end Moment

/-- The moments in the life of a new switchboard: operations begin when no delivery is in progress. -/
inductive Reachable (table : ReactionTable) : Moment → Prop
  | new : Reachable table {}
  | operate {moment : Moment} (operation : Operation) (before : Reachable table moment)
      (rest : moment.pending = []) : Reachable table (moment.operate table operation)
  | advance {moment : Moment} (before : Reachable table moment) :
      Reachable table (moment.advance table)

variable {table : ReactionTable} {moment : Moment}

/-! ### What is counted -/

/-- The counter lacks the deliveries that are overlooked, and leaves room for the others only. -/
structure Counted (moment : Moment) : Prop where
  depth : moment.board.bus.depth = moment.pending.length - moment.overlooked
  bound : moment.pending.length ≤ maxDepth + moment.overlooked

theorem counted_emit (counted : Counted moment) (event : Event) : Counted (moment.emit event) := by
  obtain ⟨depth, bound⟩ := counted
  unfold Moment.emit
  split
  next => exact ⟨depth, bound⟩
  next room =>
    constructor
    · simp only [List.length_cons]
      omega
    · simp only [List.length_cons]
      omega

/-- A handler that removes all subscriptions sets the counter to nothing, so all that is in progress
is overlooked from then on. -/
theorem counted_settle (counted : Counted moment) (name : String) (event : Event)
    (reaction : Reaction) : Counted (moment.settle name event reaction) := by
  cases reaction with
  | record | emit | echo | fail | subscribe => exact ⟨counted.depth, counted.bound⟩
  | unsubscribe kind other =>
      exact ⟨(depth_unsubscribe kind other moment.board).trans counted.depth, counted.bound⟩
  | clear => exact ⟨(Int.sub_self _).symm, Nat.le_add_left _ _⟩

theorem counted_advance (counted : Counted moment) : Counted (moment.advance table) := by
  obtain ⟨board, pending, overlooked⟩ := moment
  obtain ⟨depth, bound⟩ := counted
  unfold Moment.advance
  match pending with
  | [] => exact ⟨depth, bound⟩
  | ⟨_, []⟩ :: outer =>
      simp only [List.length_cons] at depth bound
      constructor
      · dsimp only
        omega
      · dsimp only
        omega
  | ⟨event, name :: waiting⟩ :: outer =>
      have called : Counted ⟨board.called name event, ⟨event, waiting⟩ :: outer, overlooked⟩ :=
        ⟨depth, bound⟩
      dsimp only
      cases (table.reaction name).next? event with
      | some next => exact counted_emit called next
      | none => exact counted_settle called name event _

theorem counted_operate (counted : Counted moment) (operation : Operation) :
    Counted (moment.operate table operation) := by
  cases operation with
  | subscribe kind name => exact ⟨counted.depth, counted.bound⟩
  | unsubscribe kind name =>
      exact ⟨(depth_unsubscribe kind name moment.board).trans counted.depth, counted.bound⟩
  | emit event => exact counted_emit counted event
  | clear => exact ⟨(Int.sub_self _).symm, Nat.le_add_left _ _⟩

theorem counted_of_reachable (reached : Reachable table moment) : Counted moment := by
  induction reached with
  | new => exact ⟨rfl, Nat.zero_le _⟩
  | operate operation _ _ ih => exact counted_operate ih operation
  | advance _ ih => exact counted_advance ih

/-- What is overlooked changes only if a handler removes all subscriptions. -/
theorem overlooked_advance (keeps : table.NeverClears) :
    (moment.advance table).overlooked = moment.overlooked := by
  unfold Moment.advance
  split
  next => rfl
  next => rfl
  next event name waiting outer _ =>
    dsimp only
    split
    next => exact Moment.overlooked_emit _ _
    next => exact if_neg (keeps name)

theorem overlooked_of_reachable (keeps : table.NeverClears) (reached : Reachable table moment) :
    moment.overlooked = 0 := by
  induction reached with
  | new => rfl
  | operate operation _ rest ih =>
      cases operation with
      | subscribe kind name => exact ih
      | unsubscribe kind name => exact ih
      | emit event => exact (Moment.overlooked_emit event _).trans ih
      | clear => exact List.length_eq_zero_iff.2 rest
  | advance _ ih => exact (overlooked_advance keeps).trans ih

/-! ### Moments and emissions -/

/-- One moment comes after another, with no operation begun in between. -/
def Leads (table : ReactionTable) (earlier later : Moment) : Prop :=
  ∃ steps, (Moment.advance table)^[steps] earlier = later

theorem Leads.refl (moment : Moment) : Leads table moment moment := ⟨0, rfl⟩

theorem Leads.trans {first second third : Moment} (begins : Leads table first second)
    (continues : Leads table second third) : Leads table first third := by
  obtain ⟨before, rfl⟩ := begins
  obtain ⟨after, rfl⟩ := continues
  exact ⟨after + before, Function.iterate_add_apply _ _ _ _⟩

theorem Leads.step {earlier later : Moment} (rest : Leads table (earlier.advance table) later) :
    Leads table earlier later :=
  Leads.trans ⟨1, rfl⟩ rest

theorem Leads.reachable {later : Moment} (leads : Leads table moment later)
    (reached : Reachable table moment) : Reachable table later := by
  obtain ⟨steps, rfl⟩ := leads
  induction steps with
  | zero => exact reached
  | succ steps ih =>
      rw [Function.iterate_succ_apply']
      exact .advance ih

/-- From a moment on, a board is left with the same deliveries in progress as some time before, or
there comes a moment with so many in progress as are given. -/
def Arrives (table : ReactionTable) (moment : Moment) (board : Switchboard)
    (pending : List Pending) (many : Nat) : Prop :=
  (∃ overlooked, Leads table moment ⟨board, pending, overlooked⟩) ∨
    ∃ deep, Leads table moment deep ∧ many ≤ deep.pending.length

theorem Arrives.of_leads {later : Moment} {board : Switchboard} {pending : List Pending}
    {many : Nat} (leads : Leads table moment later) (arrives : Arrives table later board pending many) :
    Arrives table moment board pending many := by
  rcases arrives with ⟨overlooked, rest⟩ | ⟨deep, rest, enough⟩
  · exact .inl ⟨overlooked, leads.trans rest⟩
  · exact .inr ⟨deep, leads.trans rest, enough⟩

/-- If the moments of emissions arrive where the emissions do, the moments of a delivery arrive where
the calls of its handlers do. The induction is on the handlers that are left. -/
theorem arrives_serve {nesting : Nat}
    (emits : ∀ event (moment : Moment), Arrives table (moment.emit event)
      ((delivery table).emit nesting event moment.board) moment.pending
      (moment.pending.length + nesting))
    (event : Event) (handlers : List String) (board : Switchboard) (outer : List Pending)
    (overlooked : Nat) :
    Arrives table ⟨board, ⟨event, handlers⟩ :: outer, overlooked⟩
      (handlers.foldl ((delivery table).deliverTo ((delivery table).emit nesting) event) board)
      (⟨event, []⟩ :: outer) (outer.length + (nesting + 1)) := by
  induction handlers generalizing board overlooked with
  | nil => exact .inl ⟨overlooked, .refl _⟩
  | cons name others ih =>
      rw [List.foldl_cons, deliverTo_eq]
      apply Arrives.of_leads (Leads.step (.refl _))
      unfold Moment.advance
      dsimp only
      cases (table.reaction name).next? event with
      | none => exact ih _ _
      | some next =>
          dsimp only
          rcases emits next ⟨board.called name event, ⟨event, others⟩ :: outer, overlooked⟩ with
            ⟨after, inner⟩ | ⟨deep, inner, enough⟩
          · exact .of_leads inner (ih _ _)
          · refine .inr ⟨deep, inner, ?_⟩
            simp only [List.length_cons] at enough
            omega

/-- The moments of an emission arrive where the emission does, with nothing more in progress, unless
they nest more deeply than the emission was bounded to. The induction is on that bound. -/
theorem arrives_emit (nesting : Nat) (event : Event) (moment : Moment) :
    Arrives table (moment.emit event) ((delivery table).emit nesting event moment.board)
      moment.pending (moment.pending.length + nesting) := by
  induction nesting generalizing event moment with
  | zero =>
      exact .inr ⟨_, .refl _, moment.length_pending_emit event⟩
  | succ nesting ih =>
      by_cases full : moment.board.bus.depth ≥ maxDepth
      · have dropped : (delivery table).emit (nesting + 1) event moment.board =
            moment.board.note (droppedRecord event) := by
          rw [Delivery.emit]
          exact if_pos full
        rw [dropped, Moment.emit, if_pos full]
        exact .inl ⟨moment.overlooked, .refl _⟩
      · rw [Delivery.emit_of_room (Int.not_le.1 full), Moment.emit, if_neg full]
        rcases arrives_serve ih event (moment.board.bus.handlers event.kind)
            ((delivery table).shiftDepth 1 moment.board) moment.pending moment.overlooked with
          ⟨overlooked, served⟩ | deep
        · exact .inl ⟨overlooked, served.trans (.step (.refl _))⟩
        · exact .inr deep

/-- What an operation does between deliveries is a matter of moments, too, as long as they do not nest
more deeply than emissions can. -/
theorem reachable_operate (reached : Reachable table moment) (rest : moment.pending = [])
    (operation : Operation) :
    (∃ overlooked, Reachable table ⟨Switchboard.operate table moment.board operation, [],
      overlooked⟩) ∨
      ∃ deep, Reachable table deep ∧ moment.board.nesting ≤ deep.pending.length := by
  have begun : Reachable table (moment.operate table operation) := .operate operation reached rest
  obtain ⟨board, pending, overlooked⟩ := moment
  cases rest
  cases operation with
  | subscribe kind name => exact .inl ⟨_, begun⟩
  | unsubscribe kind name => exact .inl ⟨_, begun⟩
  | clear => exact .inl ⟨_, begun⟩
  | emit event =>
      rcases arrives_emit board.nesting event ⟨board, [], overlooked⟩ with
        ⟨overlooked, leads⟩ | ⟨deep, leads, enough⟩
      · exact .inl ⟨overlooked, leads.reachable begun⟩
      · exact .inr ⟨deep, leads.reachable begun, Nat.zero_add board.nesting ▸ enough⟩

/-! ### The limit -/

/-- At every moment the counter says how many deliveries are in progress, less those that were in
progress when all subscriptions were last removed; only beside these the limit holds. As long as no
handler removes all subscriptions, none is overlooked. Whenever nothing is in progress, an operation
leaves the board at such a moment again, or comes to one with more in progress than emissions can
nest. -/
theorem nesting_counted (reached : Reachable table moment) :
    moment.board.bus.depth = moment.pending.length - moment.overlooked ∧
      moment.pending.length ≤ maxDepth + moment.overlooked ∧
      (table.NeverClears → moment.overlooked = 0) ∧
      (moment.pending = [] → ∀ operation,
        (∃ overlooked, Reachable table
          ⟨Switchboard.operate table moment.board operation, [], overlooked⟩) ∨
        ∃ deep, Reachable table deep ∧ moment.board.nesting ≤ deep.pending.length) := by
  have counted := counted_of_reachable reached
  exact ⟨counted.depth, counted.bound, fun keeps => overlooked_of_reachable keeps reached,
    reachable_operate reached⟩

/-- A handler that removes all subscriptions, and one that repeats an event. -/
def wipers : ReactionTable := [("wipe", .clear), ("loop", .echo)]

/-- The moment after the first handler was called for an event, with nothing in progress. -/
def wiped : Moment :=
  (Moment.advance wipers)^[2] (Moment.operate wipers
    (Moment.operate wipers {} (.subscribe .script "wipe")) (.emit (.script "x")))

/-- The moment from there at which the second handler has repeated another event most deeply. -/
def overrun : Moment :=
  (Moment.advance wipers)^[8] (Moment.operate wipers
    (Moment.operate wipers wiped (.subscribe .script "loop")) (.emit (.script "y")))

/-- One delivery is overlooked after the first handler was called: with nothing in progress less than
nothing is counted, and afterwards nine deliveries nest. -/
theorem nesting_counted_overrun :
    Reachable wipers wiped ∧ wiped.pending = [] ∧ wiped.board.bus.depth = -1 ∧
      Reachable wipers overrun ∧ overrun.pending.length = maxDepth + 1 ∧
      overrun.board.bus.depth = maxDepth := by
  have first : Reachable wipers wiped :=
    Leads.reachable ⟨2, rfl⟩ (.operate _ (.operate _ .new rfl) rfl)
  have rest : wiped.pending = [] := by decide +kernel
  have subscribed : (Moment.operate wipers wiped (.subscribe .script "loop")).pending = [] := rest
  have second : Reachable wipers overrun :=
    Leads.reachable ⟨8, rfl⟩ (.operate _ (.operate _ first rest) subscribed)
  have nine : overrun.pending.length = 9 := by decide +kernel
  obtain ⟨restDepth, -⟩ := nesting_counted first
  obtain ⟨deepDepth, -⟩ := nesting_counted second
  refine ⟨first, rest, restDepth.trans (by decide +kernel), second, nine,
    deepDepth.trans (by decide +kernel)⟩

end Narrative.Switchboard
