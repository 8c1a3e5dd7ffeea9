/-
Module: Narrative.Proofs.Engine.Menus
Purpose: What the engine holds after an action that succeeds. The last thing that a command does is
  to show a menu, so what is remembered of the menu is what the world offers then.
Main exports: Play.Gives, Engine.Fresh, Play.Shows, Play.shows_handle, Engine.Current,
  Engine.menus_current
-/
import Narrative.Proofs.Engine.Session
import Narrative.Proofs.World.Menu

namespace Narrative

namespace Play

variable {α β : Type} {engine after : Engine}

/-! ### Actions that succeed -/

/-- From the engine, the action gives the value and leaves the engine after it. -/
def Gives (action : Play α) (engine : Engine) (value : α) (after : Engine) : Prop :=
  action.run.run engine = (.ok value, after)

theorem gives_pure {given value : α} :
    Gives (pure given) engine value after ↔ given = value ∧ engine = after := by
  constructor
  · intro gives
    cases gives
    exact ⟨rfl, rfl⟩
  · rintro ⟨rfl, rfl⟩
    rfl

theorem gives_change {action : World → World.Outcome α} {value : α} :
    Gives (change action) engine value after ↔
      (action engine.world).2 = .ok value ∧
        { engine with world := (action engine.world).1 } = after := by
  unfold Gives
  rw [run_change]
  exact Prod.mk.injEq .. ▸ Iff.rfl

section

variable {value : β}

theorem gives_bind {first : Play α} {next : α → Play β} :
    Gives (first >>= next) engine value after ↔
      ∃ given between, Gives first engine given between ∧ Gives (next given) between value after := by
  unfold Gives
  rw [run_bind]
  cases ended : first.run.run engine with
  | mk outcome between =>
      cases outcome with
      | ok given =>
          constructor
          · exact fun gives => ⟨given, between, rfl, gives⟩
          · rintro ⟨_, _, same, gives⟩
            cases same
            exact gives
      | error error =>
          constructor
          · intro impossible
            cases impossible
          · rintro ⟨_, _, impossible, _⟩
            cases impossible

theorem gives_returning {first : Play α} {make : α → β} :
    Gives (first >>= fun given => pure (make given)) engine value after ↔
      ∃ given, Gives first engine given after ∧ make given = value := by
  simp only [gives_bind, gives_pure]
  constructor
  · rintro ⟨given, _, gives, same, rfl⟩
    exact ⟨given, gives, same⟩
  · rintro ⟨given, gives, same⟩
    exact ⟨given, after, gives, same, rfl⟩

theorem gives_get_bind {next : Engine → Play β} :
    Gives (get >>= next) engine value after ↔ Gives (next engine) engine value after := Iff.rfl

theorem gives_modify_bind {change : Engine → Engine} {next : Unit → Play β} :
    Gives (modify change >>= next) engine value after ↔
      Gives (next ()) (change engine) value after := Iff.rfl

theorem gives_setMode_bind {mode : Mode} {next : Unit → Play β} :
    Gives (setMode mode >>= next) engine value after ↔
      Gives (next ()) { engine with mode } value after := Iff.rfl

theorem gives_focus_bind {next : Nat → Play β} :
    Gives (focus >>= next) engine value after ↔
      Gives (next engine.world.focus) engine value after := Iff.rfl

theorem gives_focusMoved_bind {next : Bool → Play β} :
    Gives (focusMoved >>= next) engine value after ↔
      Gives (next engine.world.focusMoved) engine value after := Iff.rfl

theorem gives_change_bind {action : World → World.Outcome α} {next : α → Play β} :
    Gives (change action >>= next) engine value after ↔
      ∃ given, (action engine.world).2 = .ok given ∧
        Gives (next given) { engine with world := (action engine.world).1 } value after := by
  simp only [gives_bind, gives_change]
  constructor
  · rintro ⟨given, _, ⟨succeeds, rfl⟩, gives⟩
    exact ⟨given, succeeds, gives⟩
  · rintro ⟨given, succeeds, gives⟩
    exact ⟨given, _, ⟨succeeds, rfl⟩, gives⟩

theorem gives_ask_bind {question : World → Except EvaluationError α} {next : α → Play β} :
    Gives (ask question >>= next) engine value after ↔
      ∃ given, question engine.world = .ok given ∧ Gives (next given) engine value after :=
  gives_change_bind

end

/-! ### Menus -/

theorem gives_describeOptions {text : String} (gives : Gives describeOptions engine text after) :
    after = { engine with options := engine.world.offered } := by
  simp only [describeOptions, addOptions, optionLines, bind_assoc, pure_bind, gives_focus_bind,
    gives_modify_bind, gives_ask_bind, gives_get_bind, gives_pure] at gives
  obtain ⟨positions, interactions, numbers, inside, _, rfl⟩ := gives
  rw [World.availableInteractions_eq interactions, World.availableInside_eq inside]
  rfl

theorem gives_describeInventory {text : String}
    (gives : Gives describeInventory engine text after) :
    after = { engine with items := engine.world.carried } := by
  simp only [describeInventory, gives_modify_bind, gives_ask_bind, gives_get_bind, gives_pure]
    at gives
  obtain ⟨items, held, _, rfl⟩ := gives
  rw [World.availableItems_eq held]
  rfl

/-! ### Descriptions -/

/-- A description changes nothing but the world. The induction is on the locations that may still be
described. -/
theorem gives_describeFrom {counts : Bool} {location : Nat} {others lines : List _}
    (gives : Gives (describeFrom counts location others) engine lines after) :
    ∃ world, after = { engine with world } := by
  induction location, others using describeFrom.induct generalizing engine lines with
  | case1 location others ih =>
      rw [describeFrom, evaluate, gives_change_bind] at gives
      obtain ⟨description, _, gives⟩ := gives
      rw [gives_get_bind, gives_focus_bind] at gives
      split at gives
      · obtain ⟨_, rfl⟩ := gives_pure.1 gives
        exact ⟨_, rfl⟩
      · split at gives
        next member =>
          obtain ⟨rest, gives, _⟩ := gives_returning.1 gives
          obtain ⟨world, rfl⟩ := ih _ member gives
          exact ⟨world, rfl⟩
        next =>
          rw [note, gives_modify_bind, gives_pure] at gives
          obtain ⟨_, rfl⟩ := gives
          exact ⟨_, rfl⟩

theorem gives_describeLocation {counts : Bool} {text : String}
    (gives : Gives (describeLocation counts) engine text after) :
    ∃ world, after = { engine with world, options := world.offered } := by
  rw [describeLocation, gives_get_bind, gives_bind] at gives
  obtain ⟨lines, between, described, gives⟩ := gives
  obtain ⟨world, rfl⟩ := gives_describeFrom described
  obtain ⟨options, gives, _⟩ := gives_returning.1 gives
  exact ⟨world, gives_describeOptions gives⟩

theorem gives_choose {choice : Choice} {reply : Reply}
    (gives : Gives (choose choice) engine reply after) :
    ∃ world, after = { engine with world, options := world.offered } := by
  cases choice with
  | location number =>
      rw [choose, setFocus, gives_change_bind] at gives
      obtain ⟨_, _, gives⟩ := gives
      obtain ⟨text, gives, _⟩ := gives_returning.1 gives
      obtain ⟨world, rfl⟩ := gives_describeLocation gives
      exact ⟨world, rfl⟩
  | interaction location position =>
      rw [choose, evaluate, gives_change_bind] at gives
      obtain ⟨response, _, gives⟩ := gives
      rw [gives_focusMoved_bind] at gives
      split at gives
      · obtain ⟨text, gives, _⟩ := gives_returning.1 gives
        obtain ⟨world, rfl⟩ := gives_describeLocation gives
        exact ⟨world, rfl⟩
      · split at gives
        all_goals
          obtain ⟨text, gives, _⟩ := gives_returning.1 gives
          obtain rfl := gives_describeOptions gives
          exact ⟨_, rfl⟩

/-- What stands under a key is chosen, or the key is refused. -/
theorem gives_chooseOption {key : Char} {refusal reply : Reply}
    (gives : Gives (do
      match (← get).options.lookup key with
      | some choice => choose choice
      | none => return refusal) engine reply after) :
    (∃ world, after = { engine with world, options := world.offered }) ∨
      (reply = refusal ∧ after = engine) := by
  rw [gives_get_bind] at gives
  split at gives
  · exact .inl (gives_choose gives)
  · obtain ⟨rfl, rfl⟩ := gives_pure.1 gives
    exact .inr ⟨rfl, rfl⟩

/-! ### Items -/

theorem gives_askPartner {item : Nat} {reply : Reply}
    (gives : Gives (askPartner item) engine reply after) :
    after = { engine with items := engine.world.carried } := by
  rw [askPartner, gives_get_bind] at gives
  obtain ⟨text, gives, _⟩ := gives_returning.1 gives
  exact gives_describeInventory gives

theorem gives_examine {item : Nat} {reply : Reply}
    (gives : Gives (examine item) engine reply after) :
    ∃ world, after = { engine with world, items := world.carried } := by
  rw [examine, evaluate, gives_change_bind] at gives
  obtain ⟨description, _, gives⟩ := gives
  obtain ⟨text, gives, _⟩ := gives_returning.1 gives
  obtain rfl := gives_describeInventory gives
  exact ⟨_, rfl⟩

/-- A combination ends among the items, or at the location where it moved the focus. -/
theorem gives_combineWith {selected other : Nat} {reply : Reply}
    (gives : Gives (combineWith selected other) engine reply after) :
    ∃ world,
      after = { engine with
        world, mode := .inventory (some selected), items := world.carried } ∨
      after = { engine with
        world, mode := .explore (some selected), options := world.offered } := by
  rw [combineWith, gives_setMode_bind, gives_ask_bind] at gives
  obtain ⟨path?, _, gives⟩ := gives
  split at gives
  next =>
    obtain ⟨text, gives, _⟩ := gives_returning.1 gives
    obtain rfl := gives_describeInventory gives
    exact ⟨_, .inl rfl⟩
  next path =>
    rw [evaluate, gives_change_bind] at gives
    obtain ⟨response, _, gives⟩ := gives
    rw [gives_focusMoved_bind] at gives
    split at gives
    · rw [gives_setMode_bind] at gives
      obtain ⟨text, gives, _⟩ := gives_returning.1 gives
      obtain ⟨world, rfl⟩ := gives_describeLocation gives
      exact ⟨world, .inr rfl⟩
    · obtain ⟨text, gives, _⟩ := gives_returning.1 gives
      obtain rfl := gives_describeInventory gives
      exact ⟨_, .inl rfl⟩

end Play

/-! ### Fresh menus -/

namespace Engine

/-- The engine when it has received a command: it forgets that the focus had moved. -/
def received (engine : Engine) : Engine :=
  { engine with world := { engine.world with focusMoved := false } }

/-- The menu of the mode is what the world offers. -/
def Fresh (engine : Engine) : Prop :=
  match engine.mode with
  | .explore _ => engine.options = engine.world.offered
  | .inventory _ | .combine _ => engine.items = engine.world.carried

/-- The item that is to be combined is one of those that were shown, or was so before. -/
def Keeps (engine after : Engine) : Prop :=
  ∀ item, after.mode = .combine item → after.world = engine.world ∧
    (engine.mode = .combine item ∨
      ∃ selected?, engine.mode = .inventory selected? ∧ item ∈ engine.items.map (·.2))

end Engine

namespace Play

variable {engine after : Engine}

/-- What a command comes to that succeeds in a mode: it was refused, or was a call for help, and
nothing has changed; or the menu of the mode is fresh. -/
def Shows (engine : Engine) (reply : Reply) (after : Engine) : Prop :=
  ((reply = .ok helpText ∨ reply.status = .invalid) ∧ after = engine) ∨
    (after.Fresh ∧ engine.Keeps after)

/-- A fresh menu says all, unless an item is to be combined. -/
theorem shows_of_fresh {reply : Reply} (fresh : after.Fresh)
    (free : ∀ item, after.mode ≠ .combine item) : Shows engine reply after :=
  .inr ⟨fresh, fun item combining => absurd combining (free item)⟩

theorem shows_handleExplore {selected? : Option Nat} (mode : engine.mode = .explore selected?)
    {command : Command} {reply : Reply} (gives : Gives (handleExplore command) engine reply after) :
    Shows engine reply after := by
  have explores {world : World} (same : after = { engine with world, options := world.offered }) :
      Shows engine reply after := by
    subst same
    exact shows_of_fresh (by simp [Engine.Fresh, mode]) (by simp [mode])
  have chooses {refusal : Reply} (refuses : refusal.status = .invalid)
      (ends : (∃ world, after = { engine with world, options := world.offered }) ∨
        (reply = refusal ∧ after = engine)) : Shows engine reply after := by
    rcases ends with ⟨world, same⟩ | ⟨rfl, rfl⟩
    · exact explores same
    · exact .inl ⟨.inr refuses, rfl⟩
  cases command with
  | help =>
      obtain ⟨rfl, rfl⟩ := gives_pure.1 gives
      exact .inl ⟨.inl rfl, rfl⟩
  | look =>
      obtain ⟨text, gives, _⟩ := gives_returning.1 gives
      obtain ⟨world, same⟩ := gives_describeLocation gives
      exact explores same
  | inventory =>
      rw [handleExplore, gives_setMode_bind] at gives
      obtain ⟨text, gives, _⟩ := gives_returning.1 gives
      obtain rfl := gives_describeInventory gives
      exact shows_of_fresh rfl (by simp)
  | back => exact chooses rfl (gives_chooseOption gives)
  | choose key => exact chooses rfl (gives_chooseOption gives)

theorem shows_handleInventory {selected? : Option Nat}
    (mode : engine.mode = .inventory selected?) {command : Command} {reply : Reply}
    (gives : Gives (handleInventory selected? command) engine reply after) :
    Shows engine reply after := by
  have lists (gives : Gives (do return Reply.ok (← describeInventory)) engine reply after) :
      Shows engine reply after := by
    obtain ⟨text, gives, _⟩ := gives_returning.1 gives
    obtain rfl := gives_describeInventory gives
    exact shows_of_fresh (by simp [Engine.Fresh, mode]) (by simp [mode])
  cases command with
  | help =>
      obtain ⟨rfl, rfl⟩ := gives_pure.1 gives
      exact .inl ⟨.inl rfl, rfl⟩
  | back =>
      rw [handleInventory, gives_setMode_bind] at gives
      obtain ⟨text, gives, _⟩ := gives_returning.1 gives
      obtain ⟨world, rfl⟩ := gives_describeLocation gives
      exact shows_of_fresh rfl (by simp)
  | look | inventory => exact lists gives
  | choose key =>
      rw [handleInventory, gives_get_bind] at gives
      split at gives
      next =>
        obtain ⟨rfl, rfl⟩ := gives_pure.1 gives
        exact .inl ⟨.inr rfl, rfl⟩
      next item found =>
        split at gives
        · rw [gives_setMode_bind] at gives
          obtain rfl := gives_askPartner gives
          refine .inr ⟨rfl, ?_⟩
          intro other same
          cases same
          have shown : item ∈ engine.items.map (·.2) :=
            List.mem_map_of_mem (f := Prod.snd) (mem_of_lookup found)
          exact ⟨rfl, .inr ⟨selected?, mode, shown⟩⟩
        · rw [gives_setMode_bind] at gives
          obtain ⟨world, rfl⟩ := gives_examine gives
          exact shows_of_fresh rfl (by simp)

theorem shows_handleCombine {selected : Nat} (mode : engine.mode = .combine selected)
    {command : Command} {reply : Reply}
    (gives : Gives (handleCombine selected command) engine reply after) :
    Shows engine reply after := by
  have combines {other : Nat} (gives : Gives (combineWith selected other) engine reply after) :
      Shows engine reply after := by
    obtain ⟨world, rfl | rfl⟩ := gives_combineWith gives
    all_goals exact shows_of_fresh rfl (by simp)
  have asks (gives : Gives (askPartner selected) engine reply after) :
      Shows engine reply after := by
    obtain rfl := gives_askPartner gives
    refine .inr ⟨by simp [Engine.Fresh, mode], ?_⟩
    intro item same
    exact ⟨rfl, .inl same⟩
  cases command with
  | help =>
      obtain ⟨rfl, rfl⟩ := gives_pure.1 gives
      exact .inl ⟨.inl rfl, rfl⟩
  | look | inventory => exact asks gives
  | back =>
      rw [handleCombine, gives_focus_bind] at gives
      exact combines gives
  | choose key =>
      rw [handleCombine, gives_get_bind] at gives
      split at gives
      next =>
        obtain ⟨rfl, rfl⟩ := gives_pure.1 gives
        exact .inl ⟨.inr rfl, rfl⟩
      next item found =>
        split at gives
        · rw [gives_setMode_bind] at gives
          obtain ⟨world, rfl⟩ := gives_examine gives
          exact shows_of_fresh rfl (by simp)
        · exact combines gives

theorem shows_handle {command : Command} {reply : Reply}
    (gives : Gives (handle command) engine reply after) :
    Shows engine.received reply after := by
  rw [handle, gives_modify_bind, gives_get_bind] at gives
  split at gives
  next selected? mode => exact shows_handleExplore mode gives
  next selected? mode => exact shows_handleInventory mode gives
  next selected mode => exact shows_handleCombine mode gives

end Play

namespace Engine

variable {engine after : Engine}

/-- The menus are not stale: the options at a location and the items are those that the world offers
now, and the item that is to be combined is among them. -/
structure Current (engine : Engine) : Prop where
  fresh : engine.Fresh
  selected : ∀ item, engine.mode = .combine item → item ∈ engine.items.map (·.2)

theorem Current.received (current : engine.Current) : engine.received.Current :=
  ⟨current.fresh, current.selected⟩

/-- What is shown anew is current; the item that is to be combined was shown just before, when the
world was the same. -/
theorem Current.shows (current : engine.Current) {reply : Reply}
    (shown : Play.Shows engine reply after) : after.Current := by
  rcases shown with ⟨_, rfl⟩ | ⟨fresh, keeps⟩
  · exact current
  · refine ⟨fresh, ?_⟩
    intro item mode
    obtain ⟨world, before⟩ := keeps item mode
    have items : engine.items = engine.world.carried ∧ item ∈ engine.items.map (·.2) := by
      have fresh := current.fresh
      rcases before with same | ⟨selected?, same, listed⟩
      · rw [Fresh, same] at fresh
        exact ⟨fresh, current.selected item same⟩
      · rw [Fresh, same] at fresh
        exact ⟨fresh, listed⟩
    rw [Fresh, mode] at fresh
    rw [show after.items = engine.items by rw [fresh, world, items.1]]
    exact items.2

/-- A command that succeeds keeps the menus current. -/
theorem Current.handleLine (current : engine.Current) {line : String} {reply : Reply}
    (gives : Play.Gives (Play.handleLine line) engine reply after) : after.Current := by
  unfold Play.handleLine at gives
  split at gives
  next =>
    obtain ⟨_, rfl⟩ := Play.gives_pure.1 gives
    exact current
  next command _ => exact current.received.shows (Play.shows_handle gives)

theorem current_of_intro {selected? : Option Nat} (mode : engine.mode = .explore selected?)
    {reply : Reply} (gives : Play.Gives Play.intro engine reply after) : after.Current := by
  obtain ⟨text, gives, _⟩ := Play.gives_returning.1 gives
  obtain ⟨world, rfl⟩ := Play.gives_describeLocation gives
  refine ⟨by simp [Fresh, mode], ?_⟩
  intro item impossible
  rw [mode] at impossible
  cases impossible

/-- As long as all commands get replies, the menus stay current. -/
theorem current_of_session (current : engine.Current) {lines : List String}
    (replies : ∀ step ∈ engine.session (lines.map Play.handleLine), Replies step) :
    ∀ step ∈ engine.session (lines.map Play.handleLine), step.2.Current := by
  induction lines generalizing engine with
  | nil => simp [session]
  | cons line rest ih =>
      obtain ⟨⟨reply, replied⟩, others⟩ := List.forall_mem_cons.1 replies
      have next := current.handleLine (Prod.ext replied rfl)
      exact List.forall_mem_cons.2 ⟨next, ih next others⟩

/-- In a game in which every command gets a reply, the menus are current after every command: the
options are the interactions and the locations inside that may be told now, up to eight of each, and
the way back unless it is hidden; the items are those that are held and may be told now, up to eight;
and an item that is to be combined is one of them. -/
theorem menus_current (world : World) (exitName : String) (lines : List String)
    (replies : ∀ step ∈ (start world exitName).play lines, Replies step) :
    ∀ step ∈ (start world exitName).play lines, step.2.Current := by
  obtain ⟨⟨reply, replied⟩, others⟩ := List.forall_mem_cons.1 replies
  have begun := current_of_intro rfl (Prod.ext replied rfl)
  exact List.forall_mem_cons.2 ⟨begun, current_of_session begun others⟩

/-- In the dark hall: taking out the lamp, using it in the hall, climbing to the attic and back. -/
theorem menus_current_darkHall :
    ∃ world, darkHall.build {} = .ok world ∧
      ∀ step ∈ (start world usualExitName).play ["i", "1", "1", "x", "x", "1", "x"],
        step.2.Current := by
  have checked : (match darkHall.build {} with
      | .ok world =>
        ((start world usualExitName).play ["i", "1", "1", "x", "x", "1", "x"]).all (·.1.isOk)
      | .error _ => false) = true := by decide +kernel
  cases built : darkHall.build {} with
  | error error =>
      rw [built] at checked
      cases checked
  | ok world =>
      rw [built] at checked
      refine ⟨world, rfl, menus_current world usualExitName _ ?_⟩
      intro step member
      have succeeds := List.all_eq_true.1 checked step member
      cases outcome : step.1 with
      | ok reply => exact ⟨reply, outcome⟩
      | error error =>
          rw [outcome] at succeeds
          cases succeeds

end Engine

end Narrative
