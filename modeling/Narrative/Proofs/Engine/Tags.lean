/-
Module: Narrative.Proofs.Engine.Tags
Purpose: Tags over whole sessions, in which the player types lines and the world is evaluated and
  changed past the engine as well. None is ever empty or has a comma, and one has a blank only if an
  impact of a passage brings it.
Main exports: Operation.Within, Engine.tagged_operateAll, Engine.tags_hold
-/
import Narrative.Proofs.Engine.Operations
import Narrative.Proofs.World.Tags

namespace Narrative

/-- The operation applies impacts of some kind only. What the engine tells applies those of passages
besides. -/
def Operation.Within (Allowed : Impact → Prop) : Operation → Prop
  | .act done => done.Within Allowed
  | .intro | .line _ => True

theorem World.Act.within_of_moves {Allowed : Impact → Prop} {Fits : Nat → Prop} {act : World.Act}
    (moves : act.Moves Fits) : act.Within Allowed := by
  cases act with
  | apply => cases moves
  | evaluate | setFocus | receive | note => trivial

namespace Engine

variable {plan : World} {engine : Engine}

theorem tagged_operate (names : plan.NamesTags) (tagged : World.Tagged plan engine.world)
    {operation : Operation} (within : operation.Within plan.Declares) :
    World.Tagged plan (engine.operate operation).world := by
  have performed {α : Type} {action : Play α} (performs : Play.Performs engine.Offers action engine) :
      World.Tagged plan (action.run.run engine).2.world := by
    obtain ⟨acts, moves, done⟩ := performs
    rw [done]
    exact tagged.performAll names fun act member => World.Act.within_of_moves (moves act member)
  cases operation with
  | act act => exact tagged.perform names within
  | intro => exact performed Play.performs_intro
  | line text => exact performed (Play.performs_handleLine text)

theorem tagged_operateAll (names : plan.NamesTags) (tagged : World.Tagged plan engine.world)
    {operations : List Operation}
    (within : ∀ operation ∈ operations, operation.Within plan.Declares) :
    World.Tagged plan (engine.operateAll operations).world := by
  induction operations generalizing engine with
  | nil => exact tagged
  | cons operation operations ih =>
      obtain ⟨first, others⟩ := List.forall_mem_cons.1 within
      exact ih (tagged_operate names tagged first) others

/-- Tags over a session with a world that was built, whoever listens and whatever is applied, as long
as all impacts are those of passages of the world. Every tag of the player and of every entity, and
every key that the player holds, can be a tag; and it has no blank, unless a passage of the world has an
impact that adds or toggles just that. -/
theorem tags_hold {model : Model.World} {building playing : Bus Handler} {world : World}
    (built : model.build building = .ok world) (heard : building.Within world.Declares)
    (hears : playing.Within world.Declares) (exitName : String) {operations : List Operation}
    (within : ∀ operation ∈ operations, operation.Within world.Declares) (holder : Holder)
    {tag : String}
    (member : tag ∈ ((start { world with bus := playing } exitName).operateAll operations).world.tagsOf
      holder) :
    tag ≠ "" ∧ ',' ∉ tag.toList ∧ (Unbroken tag ∨ world.Brings tag) := by
  obtain ⟨names, tagged⟩ := Model.World.tagged_of_build built heard
  rw [← World.declares_of_plan_eq rfl] at hears within
  have begun : World.Tagged world.plan (start { world with bus := playing } exitName).world := by
    refine ⟨rfl, ?_, tagged.tags⟩
    exact List.forall_mem_append.2 ⟨hears, List.forall_mem_singleton.2 trivial⟩
  obtain ⟨⟨filled, single⟩, unbroken⟩ := (tagged_operateAll names begun within).tags holder tag member
  rw [World.brings_of_plan_eq rfl] at unbroken
  exact ⟨filled, single, unbroken⟩

/-- A cellar with a comma missing between two tags, in an impact. -/
def cellar : Model.World where
  start := "cellar"
  title := "Cellar"
  player := {}
  locations := [{
    name := "Cellar", key? := some "cellar", tags? := some (.line "dark, damp")
    passage := { impact? := some "+lamp lit, -dark" }, disableExit := false
    descriptors := [], locations := [], interactions := [], combinations := [] }]
  items := []

/-- Both the telling of the cellar and its impact past the engine bring one tag for the two; no list of
the cellar could. -/
theorem tags_hold_cellar :
    ∃ world, cellar.build {} = .ok world ∧
      "lamp lit" ∈ ((start world usualExitName).operateAll
        [.intro, .act (.apply 0 (.manipulate .add (.own "lamp lit")))]).world.tagsOf (.entity 0) ∧
      ¬ Unbroken "lamp lit" ∧ world.Brings "lamp lit" := by
  have checked : (match cellar.build {} with
      | .ok world =>
        (world.node? ⟨0, .body, []⟩).any (.manipulate .add (.own "lamp lit") ∈ ·.passage.impacts) &&
          decide ("lamp lit" ∈ ((start world usualExitName).operateAll
            [.intro, .act (.apply 0 (.manipulate .add (.own "lamp lit")))]).world.tagsOf (.entity 0)) &&
          world.bus.subscriptions.isEmpty
      | .error _ => false) = true := by decide +kernel
  cases built : cellar.build {} with
  | error error =>
      rw [built] at checked
      cases checked
  | ok world =>
      rw [built] at checked
      simp only [Bool.and_eq_true, Option.any_eq_true, decide_eq_true_eq, List.isEmpty_iff] at checked
      obtain ⟨⟨⟨node, found, declared⟩, member⟩, silent⟩ := checked
      have broken : ¬ Unbroken "lamp lit" := by decide
      have within : ∀ operation ∈
          [Operation.intro, .act (.apply 0 (.manipulate .add (.own "lamp lit")))],
          operation.Within world.Declares := by
        simp only [List.forall_mem_cons, List.not_mem_nil, false_implies, implies_true, and_true]
        exact ⟨trivial, ⟨_, node, found, declared⟩⟩
      have unheard : Bus.Within world.Declares {} := fun _ listed => by cases listed
      have unheeded : world.bus.Within world.Declares := by
        rw [Bus.Within, silent]
        exact fun _ listed => by cases listed
      obtain ⟨_, _, unbroken⟩ :=
        tags_hold built unheard unheeded usualExitName within (.entity 0) member
      exact ⟨world, rfl, member, broken, unbroken.resolve_left broken⟩

end Engine

end Narrative
