/-
Module: Narrative.Proofs.Switchboard.Delivery
Purpose: A switchboard follows the rules of delivery, whatever its handlers do, as long as none of them
  removes all subscriptions: what is known of the board after an operation is what the rules lead to, and
  the counter of the bus agrees with the deliveries that the rules count.
Main exports: Switchboard.ledger, Switchboard.leaves_iff, Switchboard.Follows, Switchboard.follows_emit,
  Switchboard.follows_operate, Switchboard.passes_iff, Switchboard.deliveries_complete
-/
import Narrative.Proofs.Switchboard.Rules

namespace Narrative.Switchboard

/-- What is known of the board. -/
def ledger (board : Switchboard) : Ledger := ⟨board.bus.subscriptions, board.calls, board.log⟩

/-- Of a board nothing else is to be known but the counter. -/
theorem eq_of_ledger_eq {one other : Switchboard} (same : one.ledger = other.ledger)
    (counted : one.bus.depth = other.bus.depth) : one = other := by
  obtain ⟨⟨subscriptions, depth⟩, calls, log⟩ := one
  cases same
  cases counted
  rfl

/-! ### What a handler does by itself -/

/-- To remove a handler is to take back the first of its subscriptions. -/
theorem leaves_iff {kind : EventKind} {name : String} {board : Switchboard} {after : Ledger} :
    Leaves kind name board.ledger after ↔ after = (board.unsubscribe kind name).ledger := by
  unfold unsubscribe Bus.unsubscribe?
  by_cases listed : (kind, name) ∈ board.bus.subscriptions
  · rw [if_pos listed]
    constructor
    · intro leaves
      cases leaves with
      | @first before after found earlier =>
          have erased : board.bus.subscriptions.erase (kind, name) = before ++ after := by
            rw [show board.bus.subscriptions = before ++ (kind, name) :: after from found,
              List.erase_append_right _ earlier, List.erase_cons_head]
          simp only [ledger, erased]
      | missing unlisted => exact absurd listed unlisted
    · rintro rfl
      obtain ⟨before, after, earlier, found, erased⟩ := List.exists_erase_eq listed
      simp only [ledger, erased]
      exact .first found earlier
  · rw [if_neg listed]
    constructor
    · intro leaves
      cases leaves with
      | first found _ =>
          have among : (kind, name) ∈ board.bus.subscriptions := by
            rw [show board.bus.subscriptions = _ from found]
            exact List.mem_append_right _ List.mem_cons_self
          exact absurd among listed
      | missing => rfl
    · rintro rfl
      exact .missing listed

/-- Unless it removes all subscriptions, a handler that emits nothing does what the rules say. -/
theorem settles_iff {reaction : Reaction} {event : Event} (quiet : reaction.next? event = none)
    (keeps : reaction ≠ .clear) (name : String) {board : Switchboard} {after : Ledger} :
    Settles name event board.ledger reaction after ↔
      after = (reaction.settle name event board).ledger := by
  cases reaction with
  | record =>
      constructor
      · rintro ⟨⟩
        rfl
      · rintro rfl
        exact .record
  | fail =>
      constructor
      · rintro ⟨⟩
        rfl
      · rintro rfl
        exact .fail
  | subscribe kind other =>
      constructor
      · rintro ⟨⟩
        rfl
      · rintro rfl
        exact .subscribe kind other
  | unsubscribe kind other =>
      rw [Reaction.settle, ← leaves_iff]
      constructor
      · rintro ⟨⟩
        assumption
      · exact .unsubscribe
  | emit | echo => cases quiet
  | clear => cases keeps rfl

/-- Unless it removes all subscriptions, what a handler does by itself leaves the counter as it is. -/
theorem depth_settle {reaction : Reaction} (keeps : reaction ≠ .clear) (name : String) (event : Event)
    (board : Switchboard) : (reaction.settle name event board).bus.depth = board.bus.depth := by
  cases reaction with
  | record | fail | emit | echo | subscribe => rfl
  | unsubscribe kind other => exact depth_unsubscribe kind other board
  | clear => cases keeps rfl

/-! ### Deliveries -/

/-- A rule leads to what is known of the board and to nothing else, and as many deliveries are counted
on the board as are in progress. -/
structure Follows (inProgress : Nat) (rule : Ledger → Prop) (board : Switchboard) : Prop where
  depth : board.bus.depth = inProgress
  only : ∀ after, rule after ↔ after = board.ledger

variable {table : ReactionTable}

/-- If all emissions of handlers follow the rules, so do the calls of any handlers. The induction is
on the handlers that are left. -/
theorem follows_serve (keeps : table.NeverClears) {inProgress : Nat}
    {emit : Event → Switchboard → Switchboard}
    (emits : ∀ event (board : Switchboard), board.bus.depth = inProgress →
      Follows inProgress (Emits table inProgress event board.ledger) (emit event board))
    (event : Event) (handlers : List String) {board : Switchboard}
    (counted : board.bus.depth = inProgress) :
    Follows inProgress (Serves table inProgress event handlers board.ledger)
      (handlers.foldl ((delivery table).deliverTo emit event) board) := by
  induction handlers generalizing board with
  | nil =>
      refine ⟨counted, fun after => ⟨?_, ?_⟩⟩
      · rintro ⟨⟩
        rfl
      · rintro rfl
        exact .nobody
  | cons name others ih =>
      rw [List.foldl_cons, deliverTo_eq]
      cases next : (table.reaction name).next? event with
      | none =>
          let called := board.called name event
          have settles {after : Ledger} : Settles name event called.ledger (table.reaction name) after ↔
              after = ((table.reaction name).settle name event called).ledger :=
            settles_iff next (keeps name) name
          have later := ih ((depth_settle (keeps name) name event called).trans counted)
          refine ⟨later.depth, fun after => Iff.trans ?_ (later.only after)⟩
          constructor
          · intro served
            cases served with
            | silent settled rest => exact settles.1 settled ▸ rest
            | emitting emitted _ _ => cases next.symm.trans emitted
          · exact .silent (settles.2 rfl)
      | some inner =>
          have answered := emits inner (board.called name event) counted
          have later := ih answered.depth
          refine ⟨later.depth, fun after => Iff.trans ?_ (later.only after)⟩
          constructor
          · intro served
            cases served with
            | silent settled _ =>
                -- No reaction that emits something is among those that settle.
                generalize table.reaction name = reaction at next settled
                cases settled <;> cases next
            | emitting emitted emission rest =>
                cases next.symm.trans emitted
                exact (answered.only _).1 emission ▸ rest
          · exact .emitting next ((answered.only _).2 rfl)

/-- With eight deliveries in progress an event is dropped, however deeply emissions may nest. -/
theorem follows_dropped {board : Switchboard} (full : board.bus.depth = 8) (nesting : Nat)
    (event : Event) :
    Follows 8 (Emits table 8 event board.ledger) ((delivery table).emit (nesting + 1) event board) := by
  have exceeded : (delivery table).emit (nesting + 1) event board =
      board.note (droppedRecord event) := by
    rw [Delivery.emit]
    exact if_pos (Int.le_of_eq full.symm)
  have known : (board.note (droppedRecord event)).ledger = board.ledger.record
      ⟨.warning, .events, "Event depth exceeded (8), dropping " ++ event.text⟩ := by
    have words : "Event depth exceeded (" ++ toString maxDepth ++ "), dropping " =
        "Event depth exceeded (8), dropping " := by decide
    rw [droppedRecord, words]
    rfl
  rw [exceeded]
  refine ⟨full, fun after => ?_⟩
  rw [known]
  constructor
  · intro emitted
    cases emitted with
    | dropped => rfl
    | delivered room _ => cases Nat.lt_irrefl _ room
  · rintro rfl
    exact .dropped

/-- With enough room for the nesting, an emission follows the rules. The induction is on the bound of
the nesting: the counter and the bound go in opposite directions, so the limit on what is in progress
is met first. -/
theorem follows_emit (keeps : table.NeverClears) {nesting inProgress : Nat}
    (within : inProgress ≤ 8) (enough : 8 < inProgress + nesting) (event : Event)
    {board : Switchboard} (counted : board.bus.depth = inProgress) :
    Follows inProgress (Emits table inProgress event board.ledger)
      ((delivery table).emit nesting event board) := by
  induction nesting generalizing inProgress event board with
  | zero => omega
  | succ nesting ih =>
      rcases Nat.lt_or_ge inProgress 8 with room | full
      · have more : board.bus.depth < maxDepth := by
          rw [counted]
          exact Int.ofNat_lt.2 room
        have inside : ((delivery table).shiftDepth 1 board).bus.depth = (inProgress + 1 : Nat) := by
          rw [depth_shiftDepth]
          omega
        have served := follows_serve keeps
          (fun event board counted => ih (by omega) (by omega) event counted) event
          (board.bus.handlers event.kind) inside
        rw [Delivery.emit_of_room more]
        constructor
        · rw [depth_shiftDepth]
          refine (congrArg (· + -1) served.depth).trans ?_
          omega
        · intro after
          refine Iff.trans ?_ (served.only after)
          constructor
          · intro emitted
            cases emitted with
            | dropped => cases Nat.lt_irrefl _ room
            | delivered _ served => exact served
          · exact fun served => .delivered room served
      · obtain rfl : inProgress = 8 := Nat.le_antisymm within full
        exact follows_dropped counted nesting event

/-! ### Operations -/

/-- Between deliveries an operation does what the rules say and nothing else, and nothing is in
progress after it. -/
theorem follows_operate (keeps : table.NeverClears) {board : Switchboard}
    (rest : board.bus.depth = 0) (operation : Operation) :
    Follows 0 (Does table board.ledger · operation) (operate table board operation) := by
  cases operation with
  | subscribe kind name => exact ⟨rest, fun _ => Iff.rfl⟩
  | unsubscribe kind name => exact ⟨(depth_unsubscribe kind name board).trans rest, fun _ => leaves_iff⟩
  | clear => exact ⟨rfl, fun _ => Iff.rfl⟩
  | emit event =>
      have room : 8 < 0 + board.nesting := by simp [nesting, nestingAfterClear, rest, maxDepth]
      exact follows_emit keeps (Nat.zero_le _) room event rest

/-- So do operations one after the other. -/
theorem passes_iff (keeps : table.NeverClears) (operations : List Operation) {board : Switchboard}
    (rest : board.bus.depth = 0) :
    Follows 0 (Passes table board.ledger operations) (operateAll table board operations) := by
  induction operations generalizing board with
  | nil =>
      refine ⟨rest, fun after => ⟨?_, ?_⟩⟩
      · rintro ⟨⟩
        rfl
      · rintro rfl
        exact .done
  | cons operation operations ih =>
      have first := follows_operate keeps rest operation
      have later := ih first.depth
      refine ⟨later.depth, fun after => Iff.trans ?_ (later.only after)⟩
      constructor
      · intro passes
        cases passes with
        | step does rest => exact (first.only _).1 does ▸ rest
      · exact .step ((first.only _).2 rfl)

/-- Whatever was done with a new switchboard before, and whatever is done with it next, comes to its end:
the rules of delivery lead to one ledger, however deeply handlers nest emissions, and it is that of the
board. After an operation as many deliveries are counted as before it, and how deeply emissions might nest
plays no role. -/
theorem deliveries_complete (keeps : table.NeverClears) (before : List Operation)
    (operation : Operation) :
    let board := operateAll table {} before
    (∀ after, Passes table {} before after ↔ after = board.ledger) ∧
      (∀ after, Does table board.ledger after operation ↔
        after = (operate table board operation).ledger) ∧
      (operate table board operation).bus.depth = board.bus.depth ∧
      ∀ event nesting, 8 < nesting →
        (delivery table).emit nesting event board = board.emit table event := by
  intro board
  have new : ({} : Switchboard).bus.depth = 0 := rfl
  have passes : Follows 0 (Passes table {} before) board := passes_iff keeps before new
  have does := follows_operate keeps passes.depth operation
  refine ⟨passes.only, does.only, does.depth.trans passes.depth.symm, ?_⟩
  intro event nesting enough
  have bounded := follows_emit keeps (Nat.zero_le _) (by omega : 8 < 0 + nesting) event passes.depth
  have emits := follows_operate keeps passes.depth (.emit event)
  exact eq_of_ledger_eq ((emits.only _).1 ((bounded.only _).2 rfl)) (bounded.depth.trans emits.depth.symm)

/-- Handlers that repeat an event, fail, bring in another handler, and send the first one away. -/
def crowd : ReactionTable :=
  [("echo", .echo), ("crash", .fail), ("invite", .subscribe .focusGained "late"),
    ("dismiss", .unsubscribe .focusGained "echo")]

/-- The crowd comes together and hears an event. Then the one that fails leaves, but still listens to
events of another kind. -/
def gathering : List Operation :=
  crowd.map (fun entry => .subscribe .focusGained entry.1) ++
    [.subscribe .focusLost "crash", .emit (.focusGained 1), .unsubscribe .focusGained "crash",
      .emit (.focusLost 1)]

/-- The crowd hears the first event eight times over, each time all of it, though the first handler is
gone when the innermost delivery ends. The ninth time the event is dropped. What comes later is heard by
those who are subscribed then, and by those who were brought in as often as they were. -/
theorem deliveries_complete_crowd :
    ∃ heard after, Passes crowd {} gathering heard ∧
      Does crowd heard after (.emit (.focusGained 2)) ∧
      heard.calls.length = 8 * crowd.length + 1 ∧
      heard.calls.getLast? = some ("crash", .focusLost 1) ∧
      heard.records.count ⟨.warning, .events,
        "Event depth exceeded (8), dropping FocusGained(location=1)"⟩ = 1 ∧
      heard.records.count ⟨.error, .events,
        "Event handler failed: crash (event=FocusGained(location=1))"⟩ = 8 ∧
      heard.records.count ⟨.warning, .events, "Handler not subscribed to FocusGained: <echo>"⟩ = 7 ∧
      after.calls = heard.calls ++
        (["invite", "dismiss"] ++ List.replicate 8 "late").map (·, .focusGained 2) := by
  have keeps : crowd.NeverClears := ReactionTable.neverClears_of_forall (by decide)
  obtain ⟨passes, does, _⟩ := deliveries_complete keeps gathering (.emit (.focusGained 2))
  exact ⟨_, _, (passes _).2 rfl, (does _).2 rfl, by decide +kernel⟩

end Narrative.Switchboard
