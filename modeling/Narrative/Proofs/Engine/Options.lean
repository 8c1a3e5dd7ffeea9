/-
Module: Narrative.Proofs.Engine.Options
Purpose: Options that are listed are carried out. What stands under a key may be told when it is listed,
  still when it is chosen, and also once the focus has moved there, so choosing the key tells it.
Main exports: World.facing, World.Tour.passage_of_ne, World.Tour.passage_of_opened, Engine.Fires,
  Engine.options_carried_out
-/
import Narrative.Proofs.Engine.Description
import Narrative.Proofs.Engine.Moves
import Narrative.Proofs.World.Opened

namespace Narrative

namespace World

/-- The world in which an option is told. To enter a location is to move the focus there first. -/
def facing (world : World) : Choice → World
  | .interaction .. => world
  | .location number => world.setFocus number

variable {world after : World} {path : NodePath}

/-! ### Tours -/

namespace Tour

variable {visited : List Nat} {stops : List Stop}

/-- A tour tells its stops, and nothing that lies in no location or in another one. -/
theorem passage_of_ne {counts : Bool} (tour : Tour counts visited world stops after)
    (elsewhere : ∀ stop ∈ stops, ∀ below, path ≠ (⟨stop.location, .body, []⟩ : NodePath).down below) :
    (after.node? path).map (·.passage) = (world.node? path).map (·.passage) := by
  have untold {world between : World} {text : String}
      (told : world.evaluate ⟨world.focus, .body, []⟩ counts = (between, .ok text))
      (elsewhere : ∀ below, path ≠ (⟨world.focus, .body, []⟩ : NodePath).down below) :
      (between.node? path).map (·.passage) = (world.node? path).map (·.passage) := by
    have counted := passage_perform world (.evaluate ⟨world.focus, .body, []⟩ counts) path
    rw [perform, told, Act.tells, tells_of_ne elsewhere] at counted
    simpa using counted
  induction tour with
  | stays told => exact untold told (elsewhere _ List.mem_cons_self)
  | returns told =>
      have same := untold told (elsewhere _ List.mem_cons_self)
      exact same
  | goes told _ _ ih =>
      obtain ⟨here, others⟩ := List.forall_mem_cons.1 elsewhere
      exact (ih others).trans (untold told here)

theorem first_told {counts : Bool} (tour : Tour counts visited world stops after) :
    ∃ text, (world.evaluate ⟨world.focus, .body, []⟩ counts).2 = .ok text := by
  cases tour with
  | stays told | returns told | goes told => exact ⟨_, congrArg Prod.snd told⟩

/-- A tour counts one telling of the location where it begins. -/
theorem passage_of_opened {passage : Passage} (tour : Tour true [] world stops after)
    (opened : world.Opened ⟨world.focus, .body, []⟩ passage) :
    (after.node? ⟨world.focus, .body, []⟩).map (·.passage) = some (passage.told true) := by
  cases tour with
  | stays told => exact opened.passage_of_told told
  | returns told =>
      have counted := opened.passage_of_told told
      exact counted
  | goes told new rest =>
      refine (rest.passage_of_ne ?_).trans (opened.passage_of_told told)
      intro stop member below same
      have here : world.focus = stop.location := congrArg NodePath.entity same
      exact (rest.distinct new).2 stop member (by simp [here])

end Tour

/-! ### Options -/

/-- To quiet listeners, a move of the focus changes nothing else of the story. -/
theorem setFocus_of_quiet (quiet : world.bus.Quiet) (location : Nat) :
    ∃ journal focusMoved,
      world.setFocus location = { world with focus := location, journal, focusMoved } := by
  by_cases here : world.focus = location
  · subst here
    exact ⟨world.journal, world.focusMoved, if_pos rfl⟩
  · have lost : { world.emit (.focusLost world.focus) with focus := location }.bus.Quiet :=
      quiet_emit quiet _
    have changed := quiet_emit lost (.focusChanged (some world.focus) location)
    rw [setFocus_of_ne here, emit_eq_of_quiet changed, emit_eq_of_quiet lost, emit_eq_of_quiet quiet]
    exact ⟨_, _, rfl⟩

theorem focus_facing {number : Nat} (quiet : world.bus.Quiet) :
    (world.facing (.location number)).focus = number := by
  obtain ⟨_, _, moved⟩ := setFocus_of_quiet quiet number
  rw [facing, moved]

theorem isAvailable_facing {choice : Choice}
    (quiet : ∀ number, choice = .location number → world.bus.Quiet) (path : NodePath) :
    (world.facing choice).isAvailable path = world.isAvailable path := by
  cases choice with
  | interaction => rfl
  | location number =>
      obtain ⟨_, _, moved⟩ := setFocus_of_quiet (quiet number rfl) number
      rw [facing, moved]
      rfl

theorem node?_facing (world : World) (choice : Choice) (path : NodePath) :
    (world.facing choice).node? path = world.node? path := by
  cases choice with
  | interaction => rfl
  | location number => exact (stable_nodes world).setFocus (fun _ => rfl) trivial path

/-- The keys that are listed, other than the way back, are those that a line may consist of. -/
theorem mem_optionKeys_of_listed {key : Char} {choice : Choice}
    (listed : (key, choice) ∈ world.offered) (other : key ≠ exitKey) : key ∈ optionKeys := by
  have keys : numberKeys ++ letterKeys = optionKeys := by decide
  rw [← keys, List.mem_append]
  rw [offered_eq] at listed
  rcases List.mem_append.1 listed with menu | way
  · rcases List.mem_append.1 menu with interaction | inside
    · exact .inl (List.of_mem_zip interaction).1
    · exact .inr (List.of_mem_zip inside).1
  · obtain ⟨parent, _, same⟩ := List.mem_map.1 way
    cases same
    exact absurd rfl other

end World

/-- An option key is a line that chooses it. -/
theorem Command.parse_optionKey {key : Char} (member : key ∈ optionKeys) :
    Command.parse key.toString = .ok (.choose key) := by
  have chosen : optionKeys.all (fun key =>
      (Command.parse key.toString).toOption = some (.choose key)) = true := by decide +kernel
  exact eq_ok_of_toOption (of_decide_eq_true (List.all_eq_true.1 chosen key member))

/-! ### Choosing -/

namespace Play

open World

variable {engine after : Engine}

theorem run_choose_location (engine : Engine) (number : Nat) :
    (choose (.location number)).run.run engine =
      (do return Reply.ok (← describeLocation true) : Play Reply).run.run
        { engine with world := engine.world.setFocus number } := by
  rw [choose, setFocus, run_bind, run_change]

theorem describeLocation_error {counts : Bool} {world : World} {error : EvaluationError}
    (failed : engine.world.evaluate ⟨engine.world.focus, .body, []⟩ counts = (world, .error error)) :
    (describeLocation counts).run.run engine = (.error error, { engine with world }) := by
  rw [describeLocation, run_get_bind, run_bind, describeFrom, run_evaluate_bind, failed]

theorem tour_of_describeLocation {counts : Bool} {text : String}
    (gives : Gives (describeLocation counts) engine text after) :
    ∃ stops, Tour counts [] engine.world stops after.world := by
  rw [describeLocation, gives_get_bind, gives_bind] at gives
  obtain ⟨lines, between, described, rest⟩ := gives
  obtain ⟨options, listed, _⟩ := gives_returning.1 rest
  obtain rfl := gives_describeOptions listed
  obtain ⟨stops, tour, _⟩ := tour_of_describeFrom described
  exact ⟨stops, tour⟩

/-- If an option cannot be told, it cannot be chosen. -/
theorem choose_error {choice : Choice} {world : World} {error : EvaluationError}
    (focused : ∀ number, choice = .location number → (engine.world.facing choice).focus = number)
    (failed : (engine.world.facing choice).evaluate choice.path true = (world, .error error)) :
    (choose choice).run.run engine = (.error error, { engine with world }) := by
  cases choice with
  | interaction around position =>
      have fails : engine.world.evaluate ⟨around, .interaction position, []⟩ true =
          (world, .error error) := failed
      rw [choose, run_evaluate_bind, fails]
  | location number =>
      have there : (engine.world.setFocus number).focus = number := focused number rfl
      have fails : (engine.world.setFocus number).evaluate
          ⟨(engine.world.setFocus number).focus, .body, []⟩ true = (world, .error error) := by
        rw [there]
        exact failed
      rw [run_choose_location, run_returning, describeLocation_error fails]
      rfl

/-- If the choice of an option gets a reply, its node was told, and once more than before. -/
theorem told_of_choose {choice : Choice} {passage : Passage} {reply : Reply}
    (focused : ∀ number, choice = .location number → (engine.world.facing choice).focus = number)
    (opened : (engine.world.facing choice).Opened choice.path passage)
    (gives : Gives (choose choice) engine reply after) :
    (∃ text, ((engine.world.facing choice).evaluate choice.path true).2 = .ok text) ∧
      (after.world.node? choice.path).map (·.passage) = some (passage.told true) := by
  cases choice with
  | interaction around position =>
      rw [choose, gives_evaluate_bind] at gives
      obtain ⟨response, world, told, gives⟩ := gives
      have counted := opened.passage_of_told told
      refine ⟨⟨response, congrArg Prod.snd told⟩, ?_⟩
      rw [gives_focusMoved_bind] at gives
      split at gives
      · obtain ⟨text, shows, _⟩ := gives_returning.1 gives
        obtain ⟨stops, tour⟩ := tour_of_describeLocation shows
        refine (tour.passage_of_ne ?_).trans counted
        intro stop _ below same
        cases congrArg NodePath.slot same
      · split at gives
        all_goals
          obtain ⟨text, shows, _⟩ := gives_returning.1 gives
          obtain rfl := gives_describeOptions shows
          exact counted
  | location number =>
      have gives := (run_choose_location engine number).symm.trans gives
      obtain ⟨text, shows, _⟩ := gives_returning.1 gives
      obtain ⟨stops, tour⟩ := tour_of_describeLocation shows
      have there : (engine.world.setFocus number).focus = number := focused number rfl
      have begins : (Choice.location number).path = ⟨(engine.world.setFocus number).focus, .body, []⟩ := by
        rw [there]
        rfl
      rw [begins] at opened ⊢
      exact ⟨tour.first_told, tour.passage_of_opened opened⟩

end Play

namespace Engine

open Play

/-- What comes of the choice of an option that has the passage, by how the command ended and the engine
after it. The node may be told, for a location once the focus has moved there, and it is told; if that
fails, the command fails with it. If the command gets a reply, all impacts were applied, and the passage
has been told once more. -/
structure Fires (engine : Engine) (choice : Choice) (passage : Passage)
    (ran : Except EvaluationError Reply × Engine) : Prop where
  placed : (engine.world.node? choice.path).map (·.passage) = some passage
  opened : (engine.world.facing choice).Opened choice.path passage
  entered : ∀ number, choice = .location number → (engine.world.facing choice).focus = number ∧
    ran = (do return Reply.ok (← describeLocation true) : Play Reply).run.run
      { engine with world := engine.world.facing choice }
  carried : ∃ after outcome, (engine.world.facing choice).evaluate choice.path true = (after, outcome) ∧
    (engine.world.facing choice).Carried choice.path passage after outcome ∧
    ∀ error, outcome = .error error → ran = (.error error, { engine with world := after })
  counted : ∀ reply, ran.1 = .ok reply →
    (∃ text, ((engine.world.facing choice).evaluate choice.path true).2 = .ok text) ∧
      (ran.2.world.node? choice.path).map (·.passage.count.value) = some (passage.count.value + 1)

theorem fires_choose {engine : Engine} {choice : Choice}
    (available : engine.world.isAvailable choice.path = .ok true)
    (quiet : ∀ number, choice = .location number → engine.world.bus.Quiet) :
    ∃ passage, engine.Fires choice passage ((choose choice).run.run engine) := by
  obtain ⟨node, found⟩ := World.exists_node_of_isAvailable available
  have opened : (engine.world.facing choice).Opened choice.path node.passage := by
    apply World.opened_of_isAvailable
    · rw [World.node?_facing, found]
    · rw [World.isAvailable_facing quiet, available]
  have focused (number : Nat) (same : choice = .location number) :
      (engine.world.facing choice).focus = number := by
    rw [same, World.focus_facing (quiet number same)]
  refine ⟨node.passage, by rw [found]; rfl, opened, ?_, ?_, ?_⟩
  · intro number same
    refine ⟨focused number same, ?_⟩
    subst same
    exact run_choose_location engine number
  · refine ⟨_, _, rfl, opened.carried rfl, ?_⟩
    intro error failed
    exact choose_error focused (Prod.ext rfl failed)
  · intro reply replied
    obtain ⟨told, counted⟩ := told_of_choose focused opened (Prod.ext replied rfl)
    refine ⟨told, ?_⟩
    obtain ⟨after, there, same⟩ := Option.map_eq_some_iff.1 counted
    rw [there, Option.map_some, same]
    rfl

/-- As long as every command gets a reply, the options at a location are those that the world offers. -/
theorem options_of_play {world : World} {exitName : String} {lines : List String}
    (replies : ∀ step ∈ (start world exitName).play lines, Replies step)
    {step : Except EvaluationError Reply × Engine} (played : step ∈ (start world exitName).play lines)
    {selected? : Option Nat} (mode : step.2.mode = .explore selected?) :
    step.2.options = step.2.world.offered := by
  obtain ⟨⟨reply, replied⟩, others⟩ := List.forall_mem_cons.1 replies
  have begun := current_of_intro rfl (Prod.ext replied rfl)
  have fresh : step.2.Fresh := by
    rcases List.mem_cons.1 played with rfl | later
    · exact begun.fresh
    · exact (current_of_session begun others step later).fresh
  rw [Fresh, mode] at fresh
  exact fresh

/-- Options that are listed are carried out. In a world that was built, take any moment of a game in which
every command has got a reply and the player is at a location, and any key of the options but the way
back. The key is a line that chooses the option, and every line that does so moves the focus there first
if the option is a location, and tells its node, as it may be told. If the walk fails, no impact is
applied; otherwise the impacts of the node are the first of those that are applied, in order up to the
first that fails. If the command gets a reply, the node has been told just once more. For a location, the
listeners only note events. -/
theorem options_carried_out {model : Model.World} {bus : Bus Handler} {world : World}
    (built : model.build bus = .ok world) (exitName : String) {lines : List String}
    (replies : ∀ step ∈ (start world exitName).play lines, Replies step)
    {step : Except EvaluationError Reply × Engine} (played : step ∈ (start world exitName).play lines)
    {selected? : Option Nat} (mode : step.2.mode = .explore selected?) {key : Char} {choice : Choice}
    (listed : step.2.options.lookup key = some choice) (other : key ≠ 'x')
    (quiet : ∀ number, choice = .location number → bus.Quiet) :
    Command.parse key.toString = .ok (.choose key) ∧
      ∀ line, Command.parse line = .ok (.choose key) →
        ∃ passage, step.2.received.Fires choice passage ((Play.handleLine line).run.run step.2) := by
  have offered : (key, choice) ∈ step.2.world.offered :=
    options_of_play replies played mode ▸ mem_of_lookup listed
  have isOption := World.mem_optionKeys_of_listed offered other
  refine ⟨Command.parse_optionKey isOption, ?_⟩
  intro line parsed
  have answered : step.2.answer key = choose choice := by
    rw [answer, menu, mode]
    dsimp only
    rw [listed]
  rw [run_choose parsed, answered]
  apply fires_choose
  · exact isAvailable_of_offered offered isOption
  · intro number same
    exact (listening_of_play built (quiet number same) exitName lines step played).2.quiet

/-- Whether the player is at a location in a step that gets a reply, with the option under the key. -/
def lists (selected? : Option Nat) (key : Char) (choice : Choice)
    (step : Except EvaluationError Reply × Engine) : Bool :=
  step.1.isOk && decide (step.2.mode = .explore selected?) &&
    decide (step.2.options.lookup key = some choice)

theorem replies_of_isOk {step : Except EvaluationError Reply × Engine} (ok : step.1.isOk = true) :
    Replies step := by
  rcases step with ⟨_ | reply, engine⟩
  · cases ok
  · exact ⟨reply, rfl⟩

theorem lists_iff {selected? : Option Nat} {key : Char} {choice : Choice}
    {step : Except EvaluationError Reply × Engine} : lists selected? key choice step = true ↔
      Replies step ∧ step.2.mode = .explore selected? ∧ step.2.options.lookup key = some choice := by
  unfold lists Replies
  rcases step with ⟨_ | reply, engine⟩ <;> simp [Except.isOk, Except.toBool]

/-- In the dark hall with the lamp lit, climbing, and entering the attic right away. -/
theorem options_carried_out_darkHall :
    ∃ world step, darkHall.build {} = .ok world ∧
      step ∈ (start world usualExitName).play ["i", "1", "1", "x", "x"] ∧
      (∃ passage,
        step.2.received.Fires (.interaction 0 0) passage ((Play.handleLine "1").run.run step.2)) ∧
      ∃ passage, step.2.received.Fires (.location 1) passage ((Play.handleLine "a").run.run step.2) := by
  have checked : (darkHall.build {}).toOption.any (fun world =>
      let game := (start world usualExitName).play ["i", "1", "1", "x", "x"]
      game.all (·.1.isOk) && game[5]?.any fun step =>
        lists (some 2) '1' (.interaction 0 0) step && lists (some 2) 'a' (.location 1) step) = true := by
    decide +kernel
  obtain ⟨world, built, checked⟩ := (Option.any_eq_true _ _).1 checked
  obtain ⟨allOk, checked⟩ := (Bool.and_eq_true _ _).mp checked
  obtain ⟨step, found, checked⟩ := (Option.any_eq_true _ _).1 checked
  obtain ⟨climb, enter⟩ := (Bool.and_eq_true _ _).mp checked
  have built := eq_ok_of_toOption built
  have played := List.mem_of_getElem? found
  have replies : ∀ step ∈ (start world usualExitName).play ["i", "1", "1", "x", "x"],
      Replies step := fun step member => replies_of_isOk (List.all_eq_true.1 allOk step member)
  have quiet : Bus.Quiet {} := ⟨by simp, by decide⟩
  obtain ⟨_, mode, climb⟩ := lists_iff.1 climb
  obtain ⟨_, _, enter⟩ := lists_iff.1 enter
  obtain ⟨_, climbs⟩ := options_carried_out built usualExitName replies played mode climb (by decide)
    fun _ _ => quiet
  obtain ⟨_, enters⟩ := options_carried_out built usualExitName replies played mode enter (by decide)
    fun _ _ => quiet
  exact ⟨world, step, built, played, climbs "1" (eq_ok_of_toOption (by decide +kernel)),
    enters "a" (eq_ok_of_toOption (by decide +kernel))⟩

/-- A hall with a lever. Pulling it leads on to a part that asks for an entity that there is not. -/
def brokenLever : Model.World where
  start := "hall"
  title := "Lever"
  player := {}
  locations := [{
    name := "Hall", key? := some "hall", tags? := none, passage := {}, disableExit := false
    descriptors := [], locations := [], combinations := []
    interactions := [⟨"Pull", { impact? := some "+pulled" },
      [⟨{ requires? := some "nowhere.lit" }, .none, []⟩]⟩] }]
  items := []

/-- A hall with a yard, which is open as long as the hall is not locked. -/
def gatedYard : Model.World where
  start := "hall"
  title := "Yard"
  player := {}
  locations := [{
    name := "Hall", key? := some "hall", tags? := none, passage := {}, disableExit := false
    descriptors := [], interactions := [], combinations := []
    locations := [{
      name := "Yard", key? := some "yard", tags? := none
      passage := { requires? := some "!hall.locked" }, disableExit := false
      descriptors := [], locations := [], interactions := [], combinations := [] }] }]
  items := []

/-- A listener that locks the hall when the focus leaves a location. -/
def lockingBus : Bus Handler where
  subscriptions := [(.focusLost, .react "lock" 0 [.manipulate .add (.own "locked")])]

/-- The lever is listed and pulled, and its own impact is not applied, since the walk fails behind it.
And where a listener reacts to the move of the focus, a location is listed and entered that is not told
then. -/
theorem options_not_carried_out :
    (∃ world step, brokenLever.build {} = .ok world ∧
      (start world usualExitName).play [] = [step] ∧ Replies step ∧ step.2.mode = .explore none ∧
      step.2.options.lookup '1' = some (.interaction 0 0) ∧
      (step.2.world.node? ⟨0, .interaction 0, []⟩).map (·.passage.impacts) =
        some [.manipulate .add (.own "pulled")] ∧
      ((Play.handleLine "1").run.run step.2).2.world.hasFact 0 (.own "pulled") = .ok false) ∧
    ∃ world step, gatedYard.build lockingBus = .ok world ∧
      (start world usualExitName).play [] = [step] ∧ Replies step ∧ step.2.mode = .explore none ∧
      step.2.options.lookup 'a' = some (.location 1) ∧
      Replies ((Play.handleLine "a").run.run step.2) ∧
      (((Play.handleLine "a").run.run step.2).2.world.node? ⟨1, .body, []⟩).map
          (·.passage.count.value) =
        (step.2.world.node? ⟨1, .body, []⟩).map (·.passage.count.value) := by
  have lever : (brokenLever.build {}).toOption.any (fun world =>
      let step := Play.intro.run.run (start world usualExitName)
      let after := ((Play.handleLine "1").run.run step.2).2.world
      lists none '1' (.interaction 0 0) step &&
        decide ((step.2.world.node? ⟨0, .interaction 0, []⟩).map (·.passage.impacts) =
          some [.manipulate .add (.own "pulled")]) &&
        decide ((after.hasFact 0 (.own "pulled")).toOption = some false)) = true := by decide +kernel
  have yard : (gatedYard.build lockingBus).toOption.any (fun world =>
      let step := Play.intro.run.run (start world usualExitName)
      let ran := (Play.handleLine "a").run.run step.2
      lists none 'a' (.location 1) step && ran.1.isOk &&
        decide ((ran.2.world.node? ⟨1, .body, []⟩).map (·.passage.count.value) =
          (step.2.world.node? ⟨1, .body, []⟩).map (·.passage.count.value))) = true := by
    decide +kernel
  constructor
  · obtain ⟨world, built, lever⟩ := (Option.any_eq_true _ _).1 lever
    simp only [Bool.and_eq_true, decide_eq_true_eq] at lever
    obtain ⟨⟨begun, impacts⟩, unpulled⟩ := lever
    obtain ⟨replied, mode, listed⟩ := lists_iff.1 begun
    exact ⟨world, _, eq_ok_of_toOption built, rfl, replied, mode, listed, impacts,
      eq_ok_of_toOption unpulled⟩
  · obtain ⟨world, built, yard⟩ := (Option.any_eq_true _ _).1 yard
    simp only [Bool.and_eq_true, decide_eq_true_eq] at yard
    obtain ⟨⟨begun, entered⟩, untold⟩ := yard
    obtain ⟨replied, mode, listed⟩ := lists_iff.1 begun
    exact ⟨world, _, eq_ok_of_toOption built, rfl, replied, mode, listed, replies_of_isOk entered,
      untold⟩

end Engine

end Narrative
