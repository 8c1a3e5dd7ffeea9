/-
Module: Narrative.Proofs.Engine.Session
Purpose: Whole games. Every command is safe for the plan of a world that was built, so every engine
  of a session is sound, and every error that leaves a command is explained by what the search for
  issues reports or by a number that cannot be written.
Main exports: Play.safe_describeLocation, Play.safe_handleLine, Engine.session, Engine.play,
  Engine.ends_of_session, Model.World.play_sound
-/
import Narrative.Proofs.Engine.Safe

namespace Narrative

namespace Play

variable {plan : World}

/-! ### Simple actions -/

theorem safe_evaluate (path : NodePath) (counts : Bool) :
    Safe plan (fun _ => True) (evaluate path counts) := by
  apply Safe.change
  · intro world follows
    exact follows.evaluate path counts
  · intro world _ text _
    trivial
  · intro world follows error failed
    exact follows.evaluate_error failed

theorem safe_setFocus {location : Nat} (located : plan.IsLocation location) :
    Safe plan (fun _ => True) (setFocus location) := by
  apply Safe.change
  · intro world follows
    exact follows.setFocus located
  · intro world _ value _
    trivial
  · intro world _ error impossible
    cases impossible

theorem safe_focus : Safe plan plan.IsLocation focus := by
  apply Safe.bind Safe.get
  intro engine follows
  exact Safe.pure follows.world.focus_isLocation

theorem safe_focusMoved : Safe plan (fun _ => True) focusMoved := by
  exact Safe.returning Safe.get _

theorem safe_setMode {mode : Mode} (held : ∀ item ∈ mode.selected?, plan.IsItem item) :
    Safe plan (fun _ => True) (setMode mode) := by
  apply Safe.modify
  intro engine follows
  exact ⟨follows.world, follows.options, follows.items, held⟩

/-- A mode in which an item is selected may be entered with any item. -/
theorem safe_setMode_item {mode : Mode} {item : Nat} (selected : mode.selected? = some item)
    (held : plan.IsItem item) : Safe plan (fun _ => True) (setMode mode) := by
  apply safe_setMode
  intro other same
  rw [selected] at same
  cases same
  exact held

theorem safe_note (record : LogRecord) : Safe plan (fun _ => True) (note record) := by
  apply Safe.modify
  intro engine follows
  exact ⟨⟨follows.world.plan_eq, follows.world.focus_isLocation⟩, follows.options, follows.items,
    follows.selected⟩

theorem safe_optionLines (options : List (Char × Choice)) :
    Safe plan (fun _ => True) (optionLines options) := by
  exact Safe.returning Safe.get _

theorem safe_addOptions {options : List (Char × Choice)}
    (there : ∀ option ∈ options, option.2.IsIn plan) :
    Safe plan (fun _ => True) (addOptions options) := by
  apply Safe.modify
  intro engine follows
  refine ⟨follows.world, ?_, follows.items, follows.selected⟩
  exact List.forall_mem_append.2 ⟨follows.options, there⟩

/-! ### Menus -/

/-- What a key of a menu stands for is in the menu. -/
theorem mem_of_lookup {α : Type} {entries : List (Char × α)} {key : Char} {value : α}
    (found : entries.lookup key = some value) : (key, value) ∈ entries := by
  obtain ⟨before, after, parts, _⟩ := List.lookup_eq_some_iff.1 found
  rw [parts]
  exact List.mem_append_right _ List.mem_cons_self

theorem isIn_of_zip {keys : List Char} {choices : List Choice}
    (there : ∀ choice ∈ choices, choice.IsIn plan) :
    ∀ option ∈ keys.zip choices, option.2.IsIn plan := by
  intro option member
  exact there option.2 (List.of_mem_zip member).2

theorem safe_availableInteractions (location : Nat) :
    Safe plan (fun positions => ∀ position ∈ positions,
        (Choice.interaction location position).IsIn plan)
      (ask (·.availableInteractions location)) := by
  apply Safe.ask
  · intro world follows positions asked position member
    rw [← follows.plan_eq, Choice.isIn_plan]
    exact World.node?_of_availableInteractions asked member
  · intro world error failed
    exact World.availableAmong_error failed

theorem safe_availableInside (well : plan.WellBuilt) (location : Nat) :
    Safe plan (fun numbers => ∀ number ∈ numbers, plan.IsLocation number)
      (ask (·.availableInside location)) := by
  apply Safe.ask
  · intro world follows numbers asked number member
    have inside := World.mem_of_availableAmong asked number member
    rw [← World.inside_plan, follows.plan_eq] at inside
    exact well.inside_isLocation location number inside
  · intro world error failed
    exact World.availableAmong_error failed

theorem safe_availableItems :
    Safe plan (fun items => ∀ item ∈ items, plan.IsItem item) (ask (·.availableItems)) := by
  apply Safe.ask
  · intro world follows items asked item member
    rw [← follows.plan_eq, World.isItem_plan]
    exact World.entity?_of_availableItems asked member
  · intro world error failed
    exact World.availableAmong_error failed

theorem safe_describeOptions (well : plan.WellBuilt) :
    Safe plan (fun _ => True) describeOptions := by
  apply Safe.bind safe_focus
  intro location _
  apply Safe.bind
  · apply Safe.modify
    intro engine follows
    exact ⟨follows.world, by simp, follows.items, follows.selected⟩
  intro _ _
  apply Safe.bind (safe_availableInteractions location)
  intro positions interactions
  apply Safe.bind
  · apply safe_addOptions
    apply isIn_of_zip
    exact List.forall_mem_map.2 interactions
  intro _ _
  apply Safe.bind (safe_availableInside well location)
  intro numbers inside
  apply Safe.bind
  · apply safe_addOptions
    apply isIn_of_zip
    exact List.forall_mem_map.2 inside
  intro _ _
  apply Safe.bind Safe.get
  intro engine follows
  apply Safe.bind
  · apply safe_addOptions
    intro option member
    obtain ⟨parent, there, rfl⟩ := List.mem_map.1 member
    split at there
    · cases there
    · rw [Option.mem_toList, ← World.parent?_plan, follows.world.plan_eq] at there
      exact well.parent_isLocation location parent there
  intro _ _
  apply Safe.bind (safe_optionLines _)
  intro _ _
  exact Safe.returning (safe_optionLines _) _

theorem safe_describeInventory : Safe plan (fun _ => True) describeInventory := by
  apply Safe.bind
  · apply Safe.modify
    intro engine follows
    exact ⟨follows.world, follows.options, by simp, follows.selected⟩
  intro _ _
  apply Safe.bind safe_availableItems
  intro items held
  apply Safe.bind
  · apply Safe.modify
    intro engine follows
    refine ⟨follows.world, follows.options, ?_, follows.selected⟩
    intro item member
    exact held item.2 (List.of_mem_zip member).2
  intro _ _
  exact Safe.returning Safe.get _

/-! ### Descriptions -/

/-- The induction is on the locations that may still be described. -/
theorem safe_describeFrom (counts : Bool) (location : Nat) (others : List Nat) :
    Safe plan (fun _ => True) (describeFrom counts location others) := by
  induction location, others using describeFrom.induct with
  | case1 location others ih =>
      rw [describeFrom]
      apply Safe.bind (safe_evaluate _ counts)
      intro description _
      apply Safe.bind Safe.get
      intro engine _
      apply Safe.bind safe_focus
      intro next _
      split
      · exact Safe.pure trivial
      · split
        next member =>
          exact Safe.returning (ih next member) _
        · exact Safe.returning (safe_note _) _

theorem safe_describeLocation (well : plan.WellBuilt) (counts : Bool) :
    Safe plan (fun _ => True) (describeLocation counts) := by
  apply Safe.bind Safe.get
  intro engine _
  apply Safe.bind (safe_describeFrom counts _ _)
  intro lines _
  exact Safe.returning (safe_describeOptions well) _

/-! ### Items -/

theorem safe_askPartner (item : Nat) : Safe plan (fun _ => True) (askPartner item) := by
  apply Safe.bind Safe.get
  intro engine _
  exact Safe.returning safe_describeInventory _

theorem safe_examine (item : Nat) : Safe plan (fun _ => True) (examine item) := by
  apply Safe.bind (safe_evaluate _ true)
  intro description _
  exact Safe.returning safe_describeInventory _

theorem safe_combinationOf (first second : Nat) :
    Safe plan (fun _ => True) (ask (·.combinationOf first second)) := by
  apply Safe.ask
  · intro world _ path? _
    trivial
  · intro world error failed
    exact World.combinationOf_error failed

/-! ### Commands -/

section

variable (well : plan.WellBuilt)

include well

theorem safe_intro : Safe plan (fun _ => True) intro := by
  exact Safe.returning (safe_describeLocation well true) _

theorem safe_choose {choice : Choice} (there : choice.IsIn plan) :
    Safe plan (fun _ => True) (choose choice) := by
  cases choice with
  | location number =>
      apply Safe.bind (safe_setFocus there)
      intro _ _
      exact Safe.returning (safe_describeLocation well true) _
  | interaction location position =>
      apply Safe.bind (safe_evaluate _ true)
      intro response _
      apply Safe.bind safe_focusMoved
      intro moved _
      split
      · exact Safe.returning (safe_describeLocation well true) _
      · split
        · exact Safe.returning (safe_describeOptions well) _
        · exact Safe.returning (safe_describeOptions well) _

/-- What is looked up in the menu of an engine that follows the plan is in the plan. -/
theorem safe_chooseOption (key : Char) {otherwise : Reply} :
    Safe plan (fun _ => True) (do
      match (← get).options.lookup key with
      | some choice => choose choice
      | none => return otherwise) := by
  apply Safe.bind Safe.get
  intro engine follows
  split
  next choice found =>
    exact safe_choose well (follows.options (key, choice) (mem_of_lookup found))
  next => exact Safe.pure trivial

theorem safe_handleExplore (command : Command) :
    Safe plan (fun _ => True) (handleExplore command) := by
  cases command with
  | help => exact Safe.pure trivial
  | look =>
      exact Safe.returning (safe_describeLocation well false) _
  | inventory =>
      apply Safe.bind (safe_setMode (by simp [Mode.selected?]))
      intro _ _
      exact Safe.returning safe_describeInventory _
  | back => exact safe_chooseOption well exitKey
  | choose key => exact safe_chooseOption well key

theorem safe_handleInventory {selected? : Option Nat}
    (held : ∀ item ∈ selected?, plan.IsItem item) (command : Command) :
    Safe plan (fun _ => True) (handleInventory selected? command) := by
  cases command with
  | help => exact Safe.pure trivial
  | back =>
      apply Safe.bind
      · apply safe_setMode
        exact held
      intro _ _
      exact Safe.returning (safe_describeLocation well true) _
  | look | inventory =>
      exact Safe.returning safe_describeInventory _
  | choose key =>
      apply Safe.bind Safe.get
      intro engine follows
      split
      next => exact Safe.pure trivial
      next item found =>
        have isItem := follows.items (key, item) (mem_of_lookup found)
        split
        · apply Safe.bind (safe_setMode_item rfl isItem)
          intro _ _
          exact safe_askPartner item
        · apply Safe.bind (safe_setMode_item rfl isItem)
          intro _ _
          exact safe_examine item

theorem safe_combineWith {selected : Nat} (held : plan.IsItem selected) (other : Nat) :
    Safe plan (fun _ => True) (combineWith selected other) := by
  apply Safe.bind (safe_setMode_item rfl held)
  intro _ _
  apply Safe.bind (safe_combinationOf other selected)
  intro path? _
  split
  · exact Safe.returning safe_describeInventory _
  next path =>
    apply Safe.bind (safe_evaluate path true)
    intro response _
    apply Safe.bind safe_focusMoved
    intro moved _
    split
    · apply Safe.bind (safe_setMode_item rfl held)
      intro _ _
      exact Safe.returning (safe_describeLocation well true) _
    · exact Safe.returning safe_describeInventory _

theorem safe_handleCombine {selected : Nat} (held : plan.IsItem selected) (command : Command) :
    Safe plan (fun _ => True) (handleCombine selected command) := by
  cases command with
  | help => exact Safe.pure trivial
  | look | inventory => exact safe_askPartner selected
  | back =>
      apply Safe.bind safe_focus
      intro location _
      exact safe_combineWith well held location
  | choose key =>
      apply Safe.bind Safe.get
      intro engine _
      split
      next => exact Safe.pure trivial
      next item _ =>
        split
        · apply Safe.bind (safe_setMode_item rfl held)
          intro _ _
          exact safe_examine selected
        · exact safe_combineWith well held item

theorem safe_handle (command : Command) : Safe plan (fun _ => True) (handle command) := by
  apply Safe.bind
  · apply Safe.modify
    intro engine follows
    exact ⟨⟨follows.world.plan_eq, follows.world.focus_isLocation⟩, follows.options, follows.items,
      follows.selected⟩
  intro _ _
  apply Safe.bind Safe.get
  intro engine follows
  have held := follows.selected
  split
  · exact safe_handleExplore well command
  next selected? mode =>
    rw [mode] at held
    exact safe_handleInventory well held command
  next selected mode =>
    rw [mode] at held
    exact safe_handleCombine well (held selected rfl) command

/-- Every line that a player can type is safe. -/
theorem safe_handleLine (line : String) : Safe plan (fun _ => True) (handleLine line) := by
  unfold handleLine
  split
  · exact Safe.pure trivial
  next command _ => exact safe_handle well command

end

end Play

/-! ### Sessions -/

namespace Engine

/-- A session: actions one after the other, each with how it ended and the engine after it. An action
that fails does not end the session. -/
def session (engine : Engine) : List (Play Reply) → List (Except EvaluationError Reply × Engine)
  | [] => []
  | action :: rest =>
    let step := action.run.run engine
    step :: step.2.session rest

theorem ends_of_session {plan : World} {engine : Engine} {actions : List (Play Reply)}
    (follows : engine.Follows plan)
    (safe : ∀ action ∈ actions, Play.Safe plan (fun _ => True) action) :
    ∀ step ∈ engine.session actions, Play.Ends plan (fun _ => True) step.1 step.2 := by
  induction actions generalizing engine with
  | nil => simp [session]
  | cons action rest ih =>
      obtain ⟨first, others⟩ := List.forall_mem_cons.1 safe
      have ends := first engine follows
      exact List.forall_mem_cons.2 ⟨ends, ih ends.follows others⟩

/-- A whole game: the beginning of the story, and then the lines that the player types. -/
def play (engine : Engine) (lines : List String) : List (Except EvaluationError Reply × Engine) :=
  engine.session (Play.intro :: lines.map Play.handleLine)

@[simp] theorem length_session (engine : Engine) (actions : List (Play Reply)) :
    (engine.session actions).length = actions.length := by
  induction actions generalizing engine with
  | nil => rfl
  | cons action rest ih => simp [session, ih]

/-- The engine for a world that was built follows its plan. -/
theorem follows_start {world : World} (follows : World.Follows world.plan world)
    (exitName : String) : (start world exitName).Follows world.plan := by
  constructor
  · exact ⟨rfl, follows.focus_isLocation⟩
  · intro option member
    cases member
  · intro item member
    cases member
  · intro item selected
    cases selected

end Engine

/-! ### What the search for issues is worth

The only outcome beside a reply and a story error is that a number of tellings is too long to be
written before a text, and then the world has such a number. -/

/-- A step of a session that gave a reply. -/
def Engine.Replies (step : Except EvaluationError Reply × Engine) : Prop :=
  ∃ reply, step.1 = .ok reply

/-- A step of a session at which the story could not be evaluated: a key names nothing suitable, or
an event was sent to the inventory. -/
def Engine.StoryFails (step : Except EvaluationError Reply × Engine) : Prop :=
  (∃ key sought, step.1 = .error (.unknownReference key sought)) ∨
    ∃ reference, step.1 = .error (.inventoryEvent reference)

/-- A step of a session that stopped at a number of tellings that cannot be written. -/
def Engine.CountFails (step : Except EvaluationError Reply × Engine) : Prop :=
  step.1 = .error .unwritableCount ∧ step.2.world.Overtold

theorem Engine.cases_of_ends {plan : World} {step : Except EvaluationError Reply × Engine}
    (ends : Play.Ends plan (fun _ => True) step.1 step.2) :
    Replies step ∨ (StoryFails step ∧ ¬ plan.Resolved) ∨ CountFails step := by
  unfold Replies StoryFails CountFails
  cases outcome : step.1 with
  | ok reply => exact .inl ⟨reply, rfl⟩
  | error error =>
      have reason := ends.explains error outcome
      rcases reason with ⟨told, unresolved⟩ | ⟨untold, overtold⟩
      · cases error with
        | unknownReference key sought => exact .inr (.inl ⟨.inl ⟨key, sought, rfl⟩, unresolved⟩)
        | inventoryEvent reference => exact .inr (.inl ⟨.inr ⟨reference, rfl⟩, unresolved⟩)
        | unwritableCount => cases told
      · cases error with
        | unknownReference key sought => cases untold
        | inventoryEvent reference => cases untold
        | unwritableCount => exact .inr (.inr ⟨rfl, overtold⟩)

/-- In a world that was built, whoever listens to it, every command of every game ends, and leaves a
sound engine. Where the search found no issues every command gets a reply; in any case nothing but
the two story errors can take its place. -/
theorem Model.World.play_sound {model : Model.World} {bus : Bus Handler} {world : Narrative.World}
    (built : model.build bus = .ok world) (exitName : String) (lines : List String) :
    ((Engine.start world exitName).play lines).length = lines.length + 1 ∧
      ∀ step ∈ (Engine.start world exitName).play lines,
        step.2.Sound ∧
        (world.issues = [] → Engine.Replies step ∨ Engine.CountFails step) ∧
        (Engine.Replies step ∨ Engine.StoryFails step ∨ Engine.CountFails step) := by
  obtain ⟨well, follows⟩ := Model.World.follows_of_build built
  constructor
  · simp [Engine.play]
  intro step member
  have safe : ∀ action ∈ Play.intro :: lines.map Play.handleLine,
      Play.Safe world.plan (fun _ => True) action := by
    rw [List.forall_mem_cons, List.forall_mem_map]
    exact ⟨Play.safe_intro well, fun line _ => Play.safe_handleLine well line⟩
  have ends := Engine.ends_of_session (Engine.follows_start follows exitName) safe step member
  refine ⟨ends.follows.sound well, ?_, ?_⟩
  · intro free
    have resolved := (World.resolved_plan world).2 (World.resolved_of_issues_eq_nil free)
    rcases Engine.cases_of_ends ends with replies | ⟨_, unresolved⟩ | fails
    · exact .inl replies
    · exact absurd resolved unresolved
    · exact .inr fails
  · rcases Engine.cases_of_ends ends with replies | ⟨fails, _⟩ | fails
    · exact .inl replies
    · exact .inr (.inl fails)
    · exact .inr (.inr fails)

/-- A dark hall: with a lit lamp the attic can be reached, and the lamp is lit by using it in the
hall. -/
def darkHall : Model.World where
  start := "hall"
  title := "Hall"
  player := { inventory? := some (.line "lamp") }
  locations := [{
    name := "Hall", key? := some "hall", tags? := none, passage := {}, disableExit := false
    descriptors := [⟨{ description? := some "It is dark.", requires? := some "!lamp.lit" }, .none, []⟩]
    locations := [{
      name := "Attic", key? := some "attic", tags? := none, passage := {}, disableExit := false
      descriptors := [], locations := [], interactions := [], combinations := [] }]
    interactions := [⟨"Climb", { requires? := some "lamp.lit", impact? := some ">attic" }, []⟩]
    combinations := [⟨"lamp", { impact? := some "+lamp.lit,#player.light" }, []⟩] }]
  items := [{
    name := "Lamp", key? := some "lamp", tags? := none, passage := {}, descriptors := []
    combinations := [] }]

/-- Taking out the lamp, using it in the hall, and climbing to the attic. -/
theorem Model.World.play_sound_darkHall :
    ∃ world, darkHall.build {} = .ok world ∧ world.issues = [] ∧
      ∀ step ∈ (Engine.start world usualExitName).play ["i", "1", "1", "x", "x", "1"],
        step.2.Sound ∧ (Engine.Replies step ∨ Engine.CountFails step) := by
  have checked : (match darkHall.build {} with
      | .ok world => world.issues.isEmpty
      | .error _ => false) = true := by decide +kernel
  cases built : darkHall.build {} with
  | error error =>
      rw [built] at checked
      cases checked
  | ok world =>
      rw [built] at checked
      have free : world.issues = [] := List.isEmpty_iff.1 checked
      refine ⟨world, rfl, free, ?_⟩
      intro step member
      have whole := Model.World.play_sound built usualExitName ["i", "1", "1", "x", "x", "1"]
      obtain ⟨sound, valid, _⟩ := whole.2 step member
      exact ⟨sound, valid free⟩

end Narrative
