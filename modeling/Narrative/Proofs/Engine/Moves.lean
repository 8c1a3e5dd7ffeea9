/-
Module: Narrative.Proofs.Engine.Moves
Purpose: Commands that move the focus. The location where the focus ends up is described, with those on
  the way, and its options are shown; only what an item does when it is looked at goes undescribed.
Main exports: Engine.Describes, Engine.focus_moves_described
-/
import Narrative.Proofs.Engine.Operations
import Narrative.Proofs.Engine.Tour
import Narrative.Proofs.World.FocusWatch

namespace Narrative

namespace World.Opens

variable {plan world after : World} {opening : String}

/-- What is done before something is shown, is done under watch. -/
theorem watched (opens : world.Opens opening after) (well : plan.WellBuilt) {begun : Nat}
    (watched : Watched plan begun world) : Watched plan begun after := by
  cases opens with
  | plain => exact watched
  | enters location => exact watched.setFocus location
  | @tells path _ _ told | @silent path _ told =>
      have kept := (account_watched well begun).evaluate watched path true
      rw [told] at kept
      exact kept

end World.Opens

namespace Engine

open World

/-- A reply that describes where the focus has moved. Whatever is said before, the locations of a tour
follow, each with its name and its text, the location with the focus among them; then the options
there, which are those that the world offers, and the keys choose among them. -/
structure Describes (engine : Engine) (reply : Reply) (after : Engine) : Prop where
  explores : ∃ selected?, after.mode = .explore selected?
  offers : after.options = after.world.offered
  tours : ∃ opening begun counts stops, engine.world.Opens opening begun ∧
    Tour counts [] begun stops after.world ∧ after.world.focus ∈ stops.map (·.location) ∧
    reply = ⟨.ok, opening ++ "\n".intercalate (stops.flatMap (·.lines after.world) ++
      [after.menuText (.options after.options)])⟩

/-- A description shows the location where the focus ends up. -/
theorem describes_of_gives {engine begun between after : Engine} {opening : String}
    {selected? : Option Nat} {counts : Bool} {lines : List String}
    (opens : engine.world.Opens opening begun.world) (mode : begun.mode = .explore selected?)
    (described : Play.Gives (Play.describeFrom counts begun.world.focus
      ((List.range begun.world.entities.length).erase begun.world.focus)) begun lines between)
    (ends : after = { between with options := between.world.offered }) :
    engine.Describes
      (.ok (opening ++ joinLines (lines ++ [after.menuText (.options after.options)]))) after := by
  obtain ⟨stops, tour, rfl⟩ := Play.tour_of_describeFrom described
  obtain ⟨_, same⟩ := Play.gives_describeFrom described
  have world : after.world = between.world := by rw [ends]
  rw [← world] at tour ⊢
  constructor
  · exact ⟨selected?, by rw [ends, same]; exact mode⟩
  · rw [ends]
  · exact ⟨opening, begun.world, counts, stops, opens, tour,
      tour.focus_mem.resolve_left List.not_mem_nil, rfl⟩

/-- The steps of a game in a world whose listeners only note events. -/
theorem listening_of_play {model : Model.World} {bus : Bus Handler} {world : World}
    (built : model.build bus = .ok world) (quiet : bus.Quiet) (exitName : String)
    (lines : List String) : ∀ step ∈ (start world exitName).play lines,
      step.2.Follows world.plan ∧ Listening world.plan step.2.world := by
  obtain ⟨well, follows⟩ := Model.World.follows_of_build built
  have begun : Listening world.plan (start world exitName).world :=
    ⟨rfl, (Model.World.quiet_of_build built quiet).watched _, Bus.watches_subscribe _ _⟩
  intro step played
  have reaches := reaches_of_play well (follows_start follows exitName) lines step played
  exact ⟨reaches.follows, reaches.keeps (chronicle_listening well) begun⟩

/-- A command that moves the focus describes where it has moved. Take a world that was built, whose
listeners only note events, and any moment of a game. Of every line that then gets a reply and leaves
the focus elsewhere than it was, the reply describes where it is, and the keys choose among the options
there; unless the line looks at an item. Then the reply only gives the text of the item, the player is
still among the items, and the location is not described. -/
theorem focus_moves_described {model : Model.World} {bus : Bus Handler} {world : World}
    (built : model.build bus = .ok world) (quiet : bus.Quiet) (exitName : String)
    (lines : List String) {step : Except EvaluationError Reply × Engine}
    (played : step ∈ (start world exitName).play lines) {line : String} {reply : Reply}
    {after : Engine} (gives : Play.Gives (Play.handleLine line) step.2 reply after)
    (moved : after.world.focus ≠ step.2.world.focus) :
    ((∀ item, step.2.deed? line ≠ some (.examine item)) →
        step.2.received.Describes reply after) ∧
      ∀ item, step.2.deed? line = some (.examine item) →
        after.mode = .inventory (some item) ∧
          ∃ text, step.2.received.world.evaluate ⟨item, .body, []⟩ true = (after.world, .ok text) ∧
            reply = ⟨.ok, "[n]" ++ text ++ "\n\n" ++ after.menuText (.items after.items)⟩ := by
  obtain ⟨well, _⟩ := Model.World.follows_of_build built
  obtain ⟨_, listening⟩ := listening_of_play built quiet exitName lines step played
  have watched : Watched world.plan step.2.world.focus step.2.received.world :=
    ⟨listening.of_same rfl rfl, .inl rfl⟩
  constructor
  · intro other
    unfold Play.handleLine at gives
    cases parsed : Command.parse line with
    | error error =>
        rw [parsed] at gives
        obtain ⟨_, rfl⟩ := Play.gives_pure.1 gives
        exact absurd rfl moved
    | ok command =>
        rw [parsed] at gives
        cases Play.shown_handle gives with
        | refused | helped => exact absurd rfl moved
        | stays _ opens still _ _ =>
            -- The engine has noticed no move, and under watch none is overlooked.
            rcases (opens.watched well watched).noticed with same | noticed
            · exact absurd same moved
            · rw [still] at noticed
              cases noticed
        | examines chosen among found deed _ _ =>
            have picked := deed?_of_found (chosen ▸ parsed) among found
            exact absurd (picked.trans (congrArg some deed)) (other _)
        | tours opens mode described same =>
            exact describes_of_gives opens mode described same
  · intro item picked
    have acts : Play.Gives (Deed.examine item).action step.2.received reply after :=
      (run_of_deed? picked).symm.trans gives
    rw [Deed.action, Play.gives_setMode_bind, Play.examine, Play.gives_evaluate_bind] at acts
    obtain ⟨text, between, told, acts⟩ := acts
    obtain ⟨items, shows, rfl⟩ := Play.gives_returning.1 acts
    obtain ⟨rfl, rfl⟩ := Play.shows_describeInventory shows
    exact ⟨rfl, text, told, rfl⟩

/-- A hall and a cave. Whoever dives is taken to the cave, and whoever looks at the stone. -/
def hummingStone : Model.World where
  start := "hall"
  title := "Stone"
  player := { inventory? := some (.line "stone") }
  locations := [
    { name := "Hall", key? := some "hall", tags? := none, passage := {}, disableExit := false
      descriptors := [], locations := [], combinations := []
      interactions := [⟨"Dive", { description? := some "A splash.", impact? := some ">cave" }, []⟩] },
    { name := "Cave", key? := some "cave", tags? := none
      passage := { description? := some "It drips." }, disableExit := false
      descriptors := [], locations := [], interactions := [⟨"Listen", {}, []⟩], combinations := [] }]
  items := [{
    name := "Stone", key? := some "stone", tags? := none
    passage := { description? := some "It hums.", impact? := some ">cave" }
    descriptors := [], combinations := [] }]

/-- Whether the line, at the end of a game, gets the message and moves the focus, and whether what it
does with items is what is expected. -/
def movesBy (model : Model.World) (lines : List String) (line : String) (deed? : Option Deed)
    (message : String) : Bool :=
  (model.build {}).toOption.any fun world =>
    ((start world usualExitName).play lines)[lines.length]?.any fun step =>
      let next := (Play.handleLine line).run.run step.2
      decide (next.1.toOption.map (·.message) = some message) &&
        decide (next.2.world.focus ≠ step.2.world.focus) && decide (step.2.deed? line = deed?)

theorem exists_of_movesBy {model : Model.World} {lines : List String} {line : String}
    {deed? : Option Deed} {message : String} (moves : movesBy model lines line deed? message = true) :
    ∃ world step reply after, model.build {} = .ok world ∧
      step ∈ (start world usualExitName).play lines ∧
      Play.Gives (Play.handleLine line) step.2 reply after ∧
      after.world.focus ≠ step.2.world.focus ∧ step.2.deed? line = deed? ∧
      reply.message = message := by
  obtain ⟨world, built, moves⟩ := (Option.any_eq_true _ _).1 moves
  obtain ⟨step, found, checked⟩ := (Option.any_eq_true _ _).1 moves
  simp only [Bool.and_eq_true, decide_eq_true_eq] at checked
  obtain ⟨⟨replied, moved⟩, picked⟩ := checked
  cases ended : (Play.handleLine line).run.run step.2 with
  | mk outcome after =>
      rw [ended] at replied moved
      cases outcome with
      | error error => cases replied
      | ok reply =>
          exact ⟨world, step, reply, after, eq_ok_of_toOption built, List.mem_of_getElem? found, ended,
            moved, picked, Option.some.inj replied⟩

/-- To dive leads to the cave, which is described. To look at the humming stone leads there as well, and
the cave is not described. -/
theorem focus_moves_described_hummingStone :
    (∃ world step reply after, hummingStone.build {} = .ok world ∧
      step ∈ (start world usualExitName).play [] ∧
      Play.Gives (Play.handleLine "1") step.2 reply after ∧
      after.world.focus ≠ step.2.world.focus ∧ step.2.received.Describes reply after ∧
      reply.message =
        "[n][p]\x7b0\x7dA splash.\n\n[i]CAVE\n\n[n][p]\x7b0\x7dIt drips.\n\n[i][[1] Listen") ∧
    ∃ world step reply after, hummingStone.build {} = .ok world ∧
      step ∈ (start world usualExitName).play ["i"] ∧
      Play.Gives (Play.handleLine "1") step.2 reply after ∧
      after.world.focus ≠ step.2.world.focus ∧ after.mode = .inventory (some 2) ∧
      (∃ text, reply = ⟨.ok, "[n]" ++ text ++ "\n\n" ++ after.menuText (.items after.items)⟩) ∧
      reply.message =
        "[n][p]\x7b0\x7dIt hums.\n\n[i]INVENTORY\n\n[[1] Stone\n[[X] Back to Cave" := by
  have dives : movesBy hummingStone [] "1" none
      "[n][p]\x7b0\x7dA splash.\n\n[i]CAVE\n\n[n][p]\x7b0\x7dIt drips.\n\n[i][[1] Listen" = true := by
    decide +kernel
  have hums : movesBy hummingStone ["i"] "1" (some (.examine 2))
      "[n][p]\x7b0\x7dIt hums.\n\n[i]INVENTORY\n\n[[1] Stone\n[[X] Back to Cave" = true := by
    decide +kernel
  have quiet : (Bus.Quiet {}) := ⟨by simp, by decide⟩
  constructor
  · obtain ⟨world, step, reply, after, built, played, gives, moved, none, message⟩ :=
      exists_of_movesBy dives
    have describes := (focus_moves_described built quiet _ _ played gives moved).1
    exact ⟨world, step, reply, after, built, played, gives, moved, describes (by simp [none]), message⟩
  · obtain ⟨world, step, reply, after, built, played, gives, moved, picked, message⟩ :=
      exists_of_movesBy hums
    have looks := (focus_moves_described built quiet _ _ played gives moved).2
    obtain ⟨mode, text, _, same⟩ := looks 2 picked
    exact ⟨world, step, reply, after, built, played, gives, moved, mode, ⟨text, same⟩, message⟩

end Engine

end Narrative
