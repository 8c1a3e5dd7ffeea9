/-
Module: Narrative.Proofs.Engine.Journal
Purpose: The journal of a session is complete. Whatever is done in a session, and whatever fails in
  the middle, the recorded events lead from what was held at first to what is held now.
Main exports: Engine.journal_complete
-/
import Narrative.Proofs.Engine.Operations
import Narrative.Proofs.World.Replay

namespace Narrative

namespace Engine

/-- A session in a world that was built, with listeners that only note events and that record every
change of a tag or of an item. After any operations, also ones that fail midway, the journal holds the
events since the beginning. Played back in order, each of them turns over the membership that it
names, and together they lead from what was held at the beginning to what is held now. -/
theorem journal_complete {model : Model.World} {before bus : Bus Handler} {world : World}
    (built : model.build before = .ok world) (distinct : world.labels.Nodup)
    (unlike : "player" ∉ world.labels) (records : bus.Records [.tagChanged, .itemChanged])
    (exitName : String) {operations : List Operation}
    (isIn : ∀ operation ∈ operations, operation.IsIn world.plan) :
    ∃ events,
      ((start { world with bus } exitName).operateAll operations).world.journal =
        world.journal ++ events ∧
      events.foldlM Holdings.replay? world.holdings =
        some ((start { world with bus } exitName).operateAll operations).world.holdings := by
  obtain ⟨well, follows⟩ := Model.World.follows_of_build built
  have begun : (start { world with bus } exitName).Follows world.plan :=
    @follows_start { world with bus } ⟨rfl, follows.focus_isLocation⟩ exitName
  have chronicle : World.Chronicle world.plan (World.Retells { world with bus }) :=
    @World.chronicle_retells { world with bus } well distinct unlike
  have listening : World.Retells { world with bus } (start { world with bus } exitName).world :=
    ⟨rfl, records.watched .focusChanged, [], (List.append_nil _).symm, rfl⟩
  exact ((reaches_operateAll well begun isIn).keeps chronicle listening).replays

/-- A gate with a lever. Pulling it names the gate by its key as well, and ends in a failure. -/
def gatehouse : Model.World where
  start := "gate"
  title := "Gatehouse"
  player := { tags? := some (.line "calm") }
  locations := [{
    name := "Gatehouse", key? := some "gate", tags? := none, passage := {}, disableExit := false
    descriptors := [], locations := [], combinations := []
    interactions := [⟨"Pull", {
      impact? := some "+raised, !gate.raised, +inventory.lever, -player.calm, >nowhere" }, []⟩] }]
  items := [{
    name := "Lever", key? := some "lever", tags? := none, passage := {}, descriptors := []
    combinations := [] }]

/-- Pulling the lever twice, and wearing it out past the engine. -/
theorem journal_complete_gatehouse :
    ∃ world, gatehouse.build {} = .ok world ∧ ∃ events,
      ((start { world with bus := .recording [.tagChanged, .itemChanged] } usualExitName).operateAll
          [.intro, .line "1", .line "1",
            .act (.apply 1 (.manipulate .add (.own "worn")))]).world.journal =
        world.journal ++ events ∧
      events.foldlM Holdings.replay? world.holdings =
        some ((start { world with bus := .recording [.tagChanged, .itemChanged] }
          usualExitName).operateAll [.intro, .line "1", .line "1",
            .act (.apply 1 (.manipulate .add (.own "worn")))]).world.holdings := by
  have checked : (match gatehouse.build {} with
      | .ok world => decide (world.labels = ["gate", "lever"])
      | .error _ => false) = true := by decide +kernel
  cases built : gatehouse.build {} with
  | error error =>
      rw [built] at checked
      cases checked
  | ok world =>
      rw [built] at checked
      have labels : world.labels = ["gate", "lever"] := of_decide_eq_true checked
      refine ⟨world, rfl, journal_complete built ?_ ?_ ?_ usualExitName ?_⟩
      · simp [labels]
      · simp [labels]
      · exact Bus.records_recording (by decide)
      · have lever : (world.plan.entity? 1).isSome = true := by
          have two := congrArg List.length labels
          simp only [World.labels, List.length_map] at two
          rw [World.entity?_plan, Option.isSome_map]
          simp [World.entity?, two]
        simp only [List.forall_mem_cons]
        exact ⟨trivial, trivial, trivial, lever, by simp⟩

end Engine

end Narrative
