/-
Module: Narrative.Proofs.Engine.Idle
Purpose: Lines that do nothing: one that is refused and one that asks for help leave the engine as it
  was, one that asks for the items leaves the world as it was, and to look around counts no telling,
  wherever that leads.
Main exports: Command.verbOf?, World.SamePassages, World.Tour.samePassages, Engine.lines_idle
-/
import Narrative.Proofs.Engine.Description

namespace Narrative

/-- The verb of a line, which is understood in some of the lines that are refused as well. -/
def Command.verbOf? (line : String) : Option Verb :=
  match Command.parse line with
  | .ok command => some command.verb
  | .error error => error.verb?

/-! ### Tellings that are not counted -/

namespace World

/-- The passages are the same, with the numbers of their tellings. -/
def SamePassages (world after : World) : Prop :=
  ∀ path, (after.node? path).map (·.passage) = (world.node? path).map (·.passage)

variable {world between after : World} {visited : List Nat}

theorem SamePassages.of_eq (same : after = world) : world.SamePassages after := fun _ => by rw [same]

theorem SamePassages.trans (first : world.SamePassages between) (second : between.SamePassages after) :
    world.SamePassages after :=
  fun path => (second path).trans (first path)

/-- What is told without counting keeps all passages, whatever impacts it brings. -/
theorem samePassages_of_uncounted {top : NodePath} {outcome : Except EvaluationError String}
    (told : world.evaluate top false = (after, outcome)) : world.SamePassages after := by
  intro path
  have kept := passage_perform world (.evaluate top false) path
  rw [perform, told] at kept
  simpa [Act.tells] using kept

theorem Tour.samePassages {stops : List Stop} (tour : Tour false visited world stops after) :
    world.SamePassages after := by
  induction tour with
  | stays told => exact samePassages_of_uncounted told
  | returns told =>
      -- The record changes the log alone.
      have same := samePassages_of_uncounted told
      exact same
  | goes told _ _ ih => exact (samePassages_of_uncounted told).trans ih

theorem Strands.samePassages {error : EvaluationError}
    (strands : Strands false visited world error after) : world.SamePassages after := by
  induction strands with
  | here failed => exact samePassages_of_uncounted failed
  | later told _ _ ih => exact (samePassages_of_uncounted told).trans ih

end World

namespace Play

/-- A description that does not count keeps all passages, wherever it leads and however it ends. -/
theorem samePassages_describeLocation (engine : Engine) :
    engine.world.SamePassages ((describeLocation false).run.run engine).2.world := by
  rcases run_describeLocation engine false with ⟨error, after, strands, fails⟩ | ⟨stops, after, tour, shows⟩
  · rw [fails]
    exact strands.samePassages
  · rw [shows, run_returning]
    rcases run_describeOptions { engine with world := after } with lists | ⟨_, _, _, fails⟩
    · rw [lists]
      exact tour.samePassages
    · rw [fails]
      exact tour.samePassages

/-- To list the items asks the world and does not change it, also if there is no answer. -/
theorem world_describeInventory (engine : Engine) :
    (describeInventory.run.run engine).2.world = engine.world := by
  rw [describeInventory, run_modify_bind, run_ask_bind]
  split <;> rfl

/-- Whatever is said with the items, the world stays as it was. -/
theorem world_listing (make : String → Reply) (engine : Engine) :
    ((do return make (← describeInventory) : Play Reply).run.run engine).2.world = engine.world := by
  rw [run_returning]
  exact world_describeInventory engine

end Play

/-! ### Lines -/

namespace Engine

variable {engine after : Engine} {line : String} {reply : Reply}

/-- A line that is refused leaves the engine as it was, but for the memory that the focus had moved. -/
theorem received_of_invalid (gives : Play.Gives (Play.handleLine line) engine reply after)
    (refused : reply.status = .invalid) : after.received = engine.received := by
  unfold Play.handleLine at gives
  split at gives
  next =>
    obtain ⟨_, rfl⟩ := Play.gives_pure.1 gives
    rfl
  next =>
    rcases (Play.shown_handle gives).message_cases with ⟨_, rfl⟩ | ⟨valid, _⟩
    · rfl
    · exact absurd refused valid

/-- A line that asks for help gets it in every mode. -/
theorem run_help (asked : Command.parse line = .ok .help) :
    (Play.handleLine line).run.run engine = (.ok (.ok helpText), engine.received) := by
  rw [run_handleLine asked]
  split <;> rfl

/-- A line that is no command changes nothing. -/
theorem run_of_error {error : CommandError} (refused : Command.parse line = .error error) :
    (Play.handleLine line).run.run engine = (.ok (.invalid error.message), engine) := by
  rw [Play.handleLine, refused]
  rfl

/-- A line that asks for the items changes the engine alone, whatever the mode. -/
theorem world_of_inventory (asked : Command.parse line = .ok .inventory) :
    ((Play.handleLine line).run.run engine).2.world = engine.received.world := by
  rw [run_handleLine asked]
  split
  next =>
    rw [Play.handleExplore, Play.setMode, Play.run_modify_bind]
    exact Play.world_listing _ _
  next =>
    rw [Play.handleInventory]
    exact Play.world_listing _ _
  next =>
    rw [Play.handleCombine, Play.askPartner, Play.run_get_bind]
    exact Play.world_listing _ _

/-- To look around keeps all passages, whatever the mode. -/
theorem samePassages_of_look (asked : Command.parse line = .ok .look) :
    engine.world.SamePassages ((Play.handleLine line).run.run engine).2.world := by
  show engine.received.world.SamePassages _
  rw [run_handleLine asked]
  split
  next =>
    rw [Play.handleExplore, Play.run_returning]
    exact Play.samePassages_describeLocation engine.received
  next =>
    rw [Play.handleInventory]
    exact .of_eq (Play.world_listing _ _)
  next =>
    rw [Play.handleCombine, Play.askPartner, Play.run_get_bind]
    exact .of_eq (Play.world_listing _ _)

/-- Lines that do nothing, whatever the state of the engine. One that is refused leaves it as it was, but
for the memory that the focus had moved; so does one that asks for help, which is always given. One with
the verb for the items leaves the world so, and one with the verb for looking around keeps all passages
with the numbers of their tellings, both also if the line is refused or an evaluation fails. -/
theorem lines_idle (engine : Engine) (line : String) :
    (∀ reply after, Play.Gives (Play.handleLine line) engine reply after → reply.status = .invalid →
      after.received = engine.received) ∧
    (Command.parse line = .ok .help →
      (Play.handleLine line).run.run engine = (.ok (.ok helpText), engine.received)) ∧
    (Command.verbOf? line = some .inventory →
      ((Play.handleLine line).run.run engine).2.received.world = engine.received.world) ∧
    (Command.verbOf? line = some .look →
      engine.world.SamePassages ((Play.handleLine line).run.run engine).2.world) := by
  refine ⟨fun reply after => received_of_invalid, run_help, fun asked => ?_, fun asked => ?_⟩
  · unfold Command.verbOf? at asked
    split at asked
    next command parsed =>
      cases command <;> cases asked
      rw [received, world_of_inventory parsed]
      rfl
    next error refused => rw [run_of_error refused]
  · unfold Command.verbOf? at asked
    split at asked
    next command parsed =>
      cases command <;> cases asked
      exact samePassages_of_look parsed
    next error refused =>
      rw [run_of_error refused]
      exact .of_eq rfl

/-- A porch, a hall and a stair, each of which leads on to the next. -/
def enfilade : Model.World where
  start := "porch"
  title := "Enfilade"
  player := {}
  locations := [
    { name := "Porch", key? := some "porch", tags? := none
      passage := { description? := some "Mats.", impact? := some "+seen,>hall" }, disableExit := false
      descriptors := [], locations := [], interactions := [], combinations := [] },
    { name := "Hall", key? := some "hall", tags? := none
      passage := { description? := some "Coats.", impact? := some ">stair" }, disableExit := false
      descriptors := [], locations := [], interactions := [], combinations := [] },
    { name := "Stair", key? := some "stair", tags? := none
      passage := { description? := some "Steps." }, disableExit := false
      descriptors := [], locations := [], interactions := [], combinations := [] }]
  items := []

/-- Looking around on the porch leads to the stair and counts nothing. An option that there is not is
refused, the items are listed, and help is given. -/
theorem lines_idle_enfilade :
    ∃ world, enfilade.build {} = .ok world ∧
      let engine := start world usualExitName
      ((Play.handleLine "l").run.run engine).2.world.focus = 2 ∧
      engine.world.SamePassages ((Play.handleLine "l").run.run engine).2.world ∧
      (∃ reply after, Play.Gives (Play.handleLine "7") engine reply after ∧ reply.status = .invalid ∧
        after.received = engine.received) ∧
      ((Play.handleLine "i").run.run engine).2.received.world = engine.received.world ∧
      (Play.handleLine "help").run.run engine = (.ok (.ok helpText), engine.received) := by
  have checked : (enfilade.build {}).toOption.any (fun world =>
      decide (((Play.handleLine "l").run.run (start world usualExitName)).2.world.focus = 2)) = true := by
    decide +kernel
  obtain ⟨world, built, led⟩ := (Option.any_eq_true _ _).1 checked
  have idle := lines_idle (start world usualExitName)
  have refused : Play.Gives (Play.handleLine "7") (start world usualExitName) (.notAnOption '7')
      (start world usualExitName).received := by
    have parsed : Command.parse "7" = .ok (.choose '7') := eq_ok_of_toOption (by decide +kernel)
    rw [Play.Gives, run_choose parsed]
    rfl
  refine ⟨world, eq_ok_of_toOption built, of_decide_eq_true led, (idle "l").2.2.2 (by decide +kernel),
    ⟨_, _, refused, rfl, (idle "7").1 _ _ refused rfl⟩, (idle "i").2.2.1 (by decide +kernel), ?_⟩
  exact (idle "help").2.1 (eq_ok_of_toOption (by decide +kernel))

end Engine

end Narrative
