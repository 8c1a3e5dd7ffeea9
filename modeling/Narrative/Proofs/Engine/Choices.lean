/-
Module: Narrative.Proofs.Engine.Choices
Purpose: What a choice of the player may rest on. A command that fails leaves the menus of the last
  screen, and nothing looks at the world again when one of them is chosen from. From the next menu
  that is shown on, every choice is one that the world allows.
Main exports: Deed, Engine.deed?, Deed.Allowed, Engine.run_of_deed?, Engine.settles,
  Engine.choices_allowed
-/
import Narrative.Proofs.Engine.Menus

namespace Narrative

/-! ### Entering and handling -/

/-- What a choice does with a location inside or with items: it enters the location, looks at an
item, begins to combine it, combines it with another one, or uses it at the location. -/
inductive Deed where
  | enter (location : Nat)
  | examine (item : Nat)
  | begin (item : Nat)
  | combine (item other : Nat)
  | use (item : Nat)
deriving Repr, DecidableEq

namespace Deed

/-- What the engine does for it. -/
def action : Deed → Play Reply
  | .enter location => Play.choose (.location location)
  | .examine item => do
    Play.setMode (.inventory (some item))
    Play.examine item
  | .begin item => do
    Play.setMode (.combine item)
    Play.askPartner item
  | .combine item other => Play.combineWith item other
  | .use item => do Play.combineWith item (← Play.focus)

end Deed

/-- The player holds the item, and it may be told. -/
def World.Carries (world : World) (item : Nat) : Prop :=
  (∃ key ∈ world.inventory, world.resolveItem? key = some item) ∧
    world.isAvailable ⟨item, .body, []⟩ = .ok true

/-- The world allows it: the location may be entered, or the items are carried. -/
def Deed.Allowed (world : World) : Deed → Prop
  | .enter location => world.isAvailable ⟨location, .body, []⟩ = .ok true
  | .examine item | .begin item | .use item => world.Carries item
  | .combine item other => world.Carries item ∧ world.Carries other

/-- The node that an option stands for. -/
def Choice.path : Choice → NodePath
  | .interaction around position => ⟨around, .interaction position, []⟩
  | .location number => ⟨number, .body, []⟩

theorem Play.run_get_bind {α : Type} (next : Engine → Play α) (engine : Engine) :
    (get >>= next).run.run engine = (next engine).run.run engine := rfl

namespace Engine

/-- What a line does with a location inside or with items, if it chooses one. -/
def deed? (engine : Engine) (line : String) : Option Deed :=
  match engine.mode, Command.parse line with
  | .explore _, .ok (.choose key) =>
    match engine.options.lookup key with
    | some (.location location) => some (.enter location)
    | _ => none
  | .inventory selected?, .ok (.choose key) =>
    (engine.items.lookup key).map fun item =>
      if selected? = some item then .begin item else .examine item
  | .combine selected, .ok (.choose key) =>
    (engine.items.lookup key).map fun item =>
      if item = selected then .examine selected else .combine selected item
  | .combine selected, .ok .back => some (.use selected)
  | _, _ => none

theorem run_handleLine {engine : Engine} {line : String} {command : Command}
    (parsed : Command.parse line = .ok command) :
    (Play.handleLine line).run.run engine =
      (match engine.mode with
        | .explore _ => Play.handleExplore command
        | .inventory selected? => Play.handleInventory selected? command
        | .combine selected => Play.handleCombine selected command).run.run engine.received := by
  unfold Play.handleLine
  rw [parsed]
  rfl

/-- The engine does for the line what the deed is. -/
theorem run_of_deed? {engine : Engine} {line : String} {deed : Deed}
    (chosen : engine.deed? line = some deed) :
    (Play.handleLine line).run.run engine = deed.action.run.run engine.received := by
  unfold deed? at chosen
  split at chosen
  next selected? key mode parsed =>
    rw [run_handleLine parsed, mode]
    dsimp only [Play.handleExplore]
    rw [Play.run_get_bind]
    split at chosen
    next location found =>
      cases chosen
      rw [show engine.received.options.lookup key = some (.location location) from found]
      rfl
    next => cases chosen
  next selected? key mode parsed =>
    obtain ⟨item, found, rfl⟩ := Option.map_eq_some_iff.1 chosen
    rw [run_handleLine parsed, mode]
    dsimp only [Play.handleInventory]
    rw [Play.run_get_bind, show engine.received.items.lookup key = some item from found]
    dsimp only
    split <;> rfl
  next selected key mode parsed =>
    obtain ⟨item, found, rfl⟩ := Option.map_eq_some_iff.1 chosen
    rw [run_handleLine parsed, mode]
    dsimp only [Play.handleCombine]
    rw [Play.run_get_bind, show engine.received.items.lookup key = some item from found]
    dsimp only
    split <;> rfl
  next selected mode parsed =>
    cases chosen
    rw [run_handleLine parsed, mode]
    rfl
  next => cases chosen

/-! ### Choices from menus that are current -/

theorem mem_optionKeys {word : String} {key : Char} (named : optionKey? word = some key) :
    key ∈ optionKeys := by
  unfold optionKey? at named
  split at named
  · split at named
    next isOption =>
      cases named
      exact isOption
    next => cases named
  · cases named

theorem mem_optionKeys_of_ofVerb {verb : Verb} {word : String} {options : List String} {key : Char}
    (read : Command.ofVerb verb word options = .ok (.choose key)) : key ∈ optionKeys := by
  unfold Command.ofVerb at read
  cases verb with
  | choose =>
      dsimp only at read
      split at read
      · split at read
        next named =>
          cases read
          exact mem_optionKeys named
        next => cases read
      · cases read
  | look | inventory | back | help =>
      dsimp only at read
      split at read <;> cases read

/-- The keys that a line can choose are the option keys; the way back has a command of its own. -/
theorem mem_optionKeys_of_parse {line : String} {key : Char}
    (parsed : Command.parse line = .ok (.choose key)) : key ∈ optionKeys := by
  unfold Command.parse at parsed
  split at parsed
  · cases parsed
  · split at parsed
    next named =>
      cases parsed
      exact mem_optionKeys named
    next =>
      split at parsed
      · exact mem_optionKeys_of_ofVerb parsed
      · cases parsed

/-- What stands under an option key may be told. -/
theorem isAvailable_of_offered {world : World} {key : Char} {choice : Choice}
    (member : (key, choice) ∈ world.offered) (isOption : key ∈ optionKeys) :
    world.isAvailable choice.path = .ok true := by
  rw [World.offered_eq] at member
  rcases List.mem_append.1 member with menu | way
  · rcases List.mem_append.1 menu with interaction | inside
    · obtain ⟨position, opened, rfl⟩ := List.mem_map.1 (List.of_mem_zip interaction).2
      exact World.isOpen_iff.1 (List.mem_filter.1 opened).2
    · obtain ⟨number, opened, rfl⟩ := List.mem_map.1 (List.of_mem_zip inside).2
      exact World.isOpen_iff.1 (List.mem_filter.1 opened).2
  · obtain ⟨parent, _, same⟩ := List.mem_map.1 way
    cases same
    exact absurd isOption (by decide)

theorem carries_of_carried {world : World} {entry : Char × Nat} (member : entry ∈ world.carried) :
    world.Carries entry.2 := by
  obtain ⟨listed, opened⟩ := List.mem_filter.1 (List.of_mem_zip member).2
  obtain ⟨key, held, named⟩ := List.mem_filterMap.1 listed
  exact ⟨⟨key, held, named⟩, World.isOpen_iff.1 opened⟩

/-- Whatever the player chooses from current menus, the world allows it. -/
theorem Current.allowed {engine : Engine} (current : engine.Current) {line : String} {deed : Deed}
    (chosen : engine.deed? line = some deed) : deed.Allowed engine.world := by
  obtain ⟨fresh, selected⟩ := current
  have carries {key : Char} {item : Nat} (items : engine.items = engine.world.carried)
      (found : engine.items.lookup key = some item) : engine.world.Carries item :=
    carries_of_carried (items ▸ Play.mem_of_lookup found)
  have carries_selected {item : Nat} (items : engine.items = engine.world.carried)
      (mode : engine.mode = .combine item) : engine.world.Carries item := by
    obtain ⟨entry, member, rfl⟩ := List.mem_map.1 (selected item mode)
    exact carries_of_carried (items ▸ member)
  unfold deed? at chosen
  unfold Fresh at fresh
  split at chosen
  next selected? key mode parsed =>
    rw [mode] at fresh
    split at chosen
    next location found =>
      cases chosen
      have listed : (key, .location location) ∈ engine.world.offered :=
        fresh ▸ Play.mem_of_lookup found
      exact isAvailable_of_offered listed (mem_optionKeys_of_parse parsed)
    next => cases chosen
  next selected? key mode parsed =>
    rw [mode] at fresh
    obtain ⟨item, found, rfl⟩ := Option.map_eq_some_iff.1 chosen
    split <;> exact carries fresh found
  next item key mode parsed =>
    rw [mode] at fresh
    obtain ⟨other, found, rfl⟩ := Option.map_eq_some_iff.1 chosen
    split
    · exact carries_selected fresh mode
    · exact ⟨carries_selected fresh mode, carries fresh found⟩
  next item mode parsed =>
    rw [mode] at fresh
    cases chosen
    exact carries_selected fresh mode
  next => cases chosen

/-! ### After a failure -/

/-- The step shows a menu: it gives a reply that is neither a refusal nor the help text, and the
player is not asked what to combine an item with. -/
def settles (step : Except EvaluationError Reply × Engine) : Bool :=
  match step.1, step.2.mode with
  | .ok reply, .explore _ | .ok reply, .inventory _ =>
    decide (reply ≠ .ok helpText) && decide (reply.status ≠ .invalid)
  | _, _ => false

theorem settles_iff {step : Except EvaluationError Reply × Engine} :
    settles step = true ↔
      ∃ reply, step.1 = .ok reply ∧ reply ≠ .ok helpText ∧ reply.status ≠ .invalid ∧
        ∀ item, step.2.mode ≠ .combine item := by
  unfold settles
  rcases step with ⟨outcome, engine⟩
  cases outcome with
  | error error => simp
  | ok reply => cases mode : engine.mode <;> simp

/-- A menu that was shown is current, whatever happened before. -/
theorem current_of_settles {engine : Engine} {line : String}
    {step : Except EvaluationError Reply × Engine}
    (ran : (Play.handleLine line).run.run engine = step) (shown : settles step = true) :
    step.2.Current := by
  obtain ⟨reply, replied, noHelp, valid, mode⟩ := settles_iff.1 shown
  have gives : Play.Gives (Play.handleLine line) engine reply step.2 :=
    ran.trans (Prod.ext replied rfl)
  unfold Play.handleLine at gives
  split at gives
  next error _ =>
    obtain ⟨same, _⟩ := Play.gives_pure.1 gives
    exact absurd (same ▸ rfl) valid
  next command _ =>
    rcases Play.shows_handle gives with ⟨help | refused, _⟩ | ⟨fresh, _⟩
    · exact absurd help noHelp
    · exact absurd refused valid
    · exact ⟨fresh, fun item same => absurd same (mode item)⟩

theorem current_of_settled {engine : Engine} {lines : List String}
    {earlier later : List (Except EvaluationError Reply × Engine)}
    {step : Except EvaluationError Reply × Engine}
    (history : engine.session (lines.map Play.handleLine) = earlier ++ step :: later)
    (shown : settles step = true) (replies : ∀ other ∈ later, Replies other) :
    ∀ shown ∈ step :: later, shown.2.Current := by
  induction earlier generalizing engine lines with
  | nil =>
      cases lines with
      | nil => cases history
      | cons line rest =>
          cases history
          have current := current_of_settles rfl shown
          exact List.forall_mem_cons.2 ⟨current, current_of_session current replies⟩
  | cons first earlier ih =>
      cases lines with
      | nil => cases history
      | cons line rest => exact ih (List.cons.inj history).2

/-- Choices in a game in which commands may fail. From a step that shows a menu on, as long as all
commands get replies, what the engine does for a choice of the player is allowed by the world as it
is when the line is received: a location inside that is entered may be entered, and an item that is
looked at or combined is held and may be told. -/
theorem choices_allowed (world : World) (exitName : String) (lines : List String)
    {earlier later : List (Except EvaluationError Reply × Engine)}
    {step : Except EvaluationError Reply × Engine}
    (history : (start world exitName).play lines = earlier ++ step :: later)
    (shown : settles step = true) (replies : ∀ other ∈ later, Replies other) :
    ∀ other ∈ step :: later, ∀ line deed, other.2.deed? line = some deed →
      (Play.handleLine line).run.run other.2 = deed.action.run.run other.2.received ∧
        deed.Allowed other.2.world := by
  have current : ∀ other ∈ step :: later, other.2.Current := by
    cases earlier with
    | nil =>
        cases history
        obtain ⟨reply, replied, _⟩ := settles_iff.1 shown
        have begun := current_of_intro rfl (Prod.ext replied rfl)
        exact List.forall_mem_cons.2 ⟨begun, current_of_session begun replies⟩
    | cons first earlier =>
        exact current_of_settled (List.cons.inj history).2 shown replies
  intro other member line deed chosen
  exact ⟨run_of_deed? chosen, (current other member).allowed chosen⟩

/-- A hall with a vault and a yard. Locking the vault fails halfway. -/
def vault : Model.World where
  start := "hall"
  title := "Vault"
  player := {}
  locations := [{
    name := "Hall", key? := some "hall", tags? := none, passage := {}, disableExit := false
    descriptors := [], combinations := []
    interactions := [⟨"Lock", { impact? := some "+locked,>nowhere" }, []⟩]
    locations := [
      { name := "Vault", key? := some "vault", tags? := none
        passage := { requires? := some "!hall.locked" }, disableExit := false
        descriptors := [], locations := [], interactions := [], combinations := [] },
      { name := "Yard", key? := some "yard", tags? := none, passage := {}, disableExit := false
        descriptors := [], locations := [], interactions := [], combinations := [] }] }]
  items := []

/-- The locked vault is still in the menu after the failure, and the key enters it; from the next
look around on, the key enters the yard. -/
theorem choices_allowed_vault :
    ∃ world begun failed looked, vault.build {} = .ok world ∧
      (start world usualExitName).play ["1", "l"] = [begun, failed, looked] ∧
      failed.2.deed? "a" = some (.enter 1) ∧
      ¬ (Deed.enter 1).Allowed failed.2.world ∧
      looked.2.deed? "a" = some (.enter 2) ∧ (Deed.enter 2).Allowed looked.2.world := by
  have checked : (match vault.build {} with
      | .ok world =>
        let game := (start world usualExitName).play ["1", "l"]
        game[1]?.any (fun failed =>
          decide (failed.2.deed? "a" = some (.enter 1)) &&
            !failed.2.world.isOpen ⟨1, .body, []⟩) &&
          game[2]?.any fun looked =>
            settles looked && decide (looked.2.deed? "a" = some (.enter 2))
      | .error _ => false) = true := by decide +kernel
  cases built : vault.build {} with
  | error error =>
      rw [built] at checked
      cases checked
  | ok world =>
      rw [built] at checked
      refine ⟨world, _, _, _, rfl, rfl, ?_⟩
      change ((_ && _) && (_ && _)) = true at checked
      simp only [Bool.and_eq_true, Bool.not_eq_true', decide_eq_true_eq] at checked
      obtain ⟨⟨stale, shut⟩, shown, chosen⟩ := checked
      refine ⟨stale, ?_, chosen, ?_⟩
      · intro allowed
        rw [World.isOpen_iff.2 allowed] at shut
        cases shut
      · exact (choices_allowed world usualExitName ["1", "l"]
          (show _ = [_, _] ++ _ :: [] from rfl) shown (List.forall_mem_nil _) _
          (List.mem_singleton_self _) "a" _ chosen).2

end Engine

end Narrative
