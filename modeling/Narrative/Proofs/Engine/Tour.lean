/-
Module: Narrative.Proofs.Engine.Tour
Purpose: What a description shows when the focus moves on while it is made: the locations on the way,
  each with the text that it gave when it was told, up to the one where the focus stays, or to the
  first that leads back.
Main exports: Stop, World.Tour, World.Strands, World.Tour.focus_mem, Play.run_describeFrom,
  Play.tour_of_describeFrom
-/
import Narrative.Proofs.Engine.Screens
import Narrative.Proofs.World.Acts

namespace Narrative

/-- A location that was described, with the text that it gave. -/
structure Stop where
  location : Nat
  text : String

/-- How a stop is shown: the name of the location as a heading in upper case, and the text. -/
def Stop.lines (world : World) (stop : Stop) : List String :=
  ["[i]" ++ Text.upper (world.nameOf stop.location), "", "[n]" ++ stop.text, ""]

/-- The record of a way that was led back. -/
def World.ledBack (world : World) (entered stopped : Nat) : LogRecord :=
  ⟨.warning, .engine, "Focus loop entering " ++ world.labelOf entered ++ ", stopped at " ++
    world.labelOf stopped⟩

namespace World

/-- The way of a description, which has been to some locations before. The location where the focus is
gets told. If the focus stays there, the way ends. If it moves to a location on the way, the way ends
too, and that is recorded. Otherwise the way goes on where the focus has moved. -/
inductive Tour (counts : Bool) : List Nat → World → List Stop → World → Prop
  | stays {visited : List Nat} {world after : World} {text : String}
      (told : world.evaluate ⟨world.focus, .body, []⟩ counts = (after, .ok text))
      (still : after.focus = world.focus) :
      Tour counts visited world [⟨world.focus, text⟩] after
  | returns {visited : List Nat} {world after : World} {text : String}
      (told : world.evaluate ⟨world.focus, .body, []⟩ counts = (after, .ok text))
      (moved : after.focus ≠ world.focus) (before : after.focus ∈ visited) :
      Tour counts visited world [⟨world.focus, text⟩]
        { after with
          log := after.log ++ [after.ledBack world.focus after.focus] }
  | goes {visited : List Nat} {world between after : World} {text : String} {stops : List Stop}
      (told : world.evaluate ⟨world.focus, .body, []⟩ counts = (between, .ok text))
      (new : between.focus ∉ world.focus :: visited)
      (rest : Tour counts (world.focus :: visited) between stops after) :
      Tour counts visited world (⟨world.focus, text⟩ :: stops) after

namespace Tour

variable {counts : Bool} {visited : List Nat} {world after : World} {stops : List Stop}

/-- The focus ends up at a location that was described, on this way or before. -/
theorem focus_mem (tour : Tour counts visited world stops after) :
    after.focus ∈ visited ∨ after.focus ∈ stops.map (·.location) := by
  induction tour with
  | stays _ still => exact .inr (by simp [still])
  | returns _ _ before => exact .inl before
  | goes _ _ _ ih =>
      rcases ih with before | later
      · rcases List.mem_cons.1 before with here | before
        · exact .inr (by simp [here])
        · exact .inl before
      · exact .inr (List.mem_cons_of_mem _ later)

theorem plan_of_told {path : NodePath} {text : String}
    (told : world.evaluate path counts = (after, .ok text)) : after.plan = world.plan := by
  have kept := plan_perform world (.evaluate path counts)
  rw [perform, told] at kept
  exact kept

theorem plan_eq (tour : Tour counts visited world stops after) : after.plan = world.plan := by
  induction tour with
  | stays told _ => exact plan_of_told told
  | returns told _ _ =>
      -- The record changes the log alone, which is not in the plan.
      have same := plan_of_told told
      exact same
  | goes told _ _ ih => exact ih.trans (plan_of_told told)

end Tour

/-- How a description breaks off, on a way that has been to some locations before: the location where the
focus is cannot be told, or it is told, and it goes so where the focus has moved. -/
inductive Strands (counts : Bool) : List Nat → World → EvaluationError → World → Prop
  | here {visited : List Nat} {world after : World} {error : EvaluationError}
      (failed : world.evaluate ⟨world.focus, .body, []⟩ counts = (after, .error error)) :
      Strands counts visited world error after
  | later {visited : List Nat} {world between after : World} {text : String} {error : EvaluationError}
      (told : world.evaluate ⟨world.focus, .body, []⟩ counts = (between, .ok text))
      (new : between.focus ∉ world.focus :: visited)
      (rest : Strands counts (world.focus :: visited) between error after) :
      Strands counts visited world error after

/-- Names are in the plan. -/
theorem nameOf_congr {world other : World} (same : world.plan = other.plan) (number : Nat) :
    world.nameOf number = other.nameOf number := by
  have name_plan (world : World) : (world.plan.entity? number).map (·.name) =
      (world.entity? number).map (·.name) := by
    rw [entity?_plan, Option.map_map]
    rfl
  rw [nameOf, nameOf, ← name_plan, same, name_plan]

theorem length_entities_congr {world other : World} (same : world.plan = other.plan) :
    world.entities.length = other.entities.length := by
  have length_plan (world : World) : world.plan.entities.length = world.entities.length := by
    simp [plan]
  rw [← length_plan, same, length_plan]

/-- The focus is where it was, or it has come to a location of the plan. -/
theorem stable_strayed (plan : World) (begun : Nat) : Stable plan.IsLocation fun after =>
    after.plan = plan ∧ (after.focus = begun ∨ plan.IsLocation after.focus) where
  setTags tags holder kept := by
    refine ⟨(plan_setTags _ tags holder).trans kept.1, ?_⟩
    cases holder <;> exact kept.2
  fits kept found := by
    rw [← kept.1, isLocation_plan]
    exact isLocation_of_resolveLocation? found
  focus located kept := ⟨kept.1, .inr located⟩
  books _ _ _ _ kept := kept

/-- A telling that moves the focus moves it to a location. -/
theorem isLocation_of_told {world after : World} {path : NodePath} {counts : Bool} {text : String}
    (told : world.evaluate path counts = (after, .ok text)) (moved : after.focus ≠ world.focus) :
    after.IsLocation after.focus := by
  have kept := (stable_strayed world.plan world.focus).evaluate
    ⟨plan_collect world path counts, .inl (focus_collect world path counts)⟩
  rw [told] at kept
  rw [← isLocation_plan, kept.1]
  exact kept.2.resolve_left moved

end World

namespace Play

open World

theorem run_evaluate_bind {α : Type} (path : NodePath) (counts : Bool) (next : String → Play α)
    (engine : Engine) : (evaluate path counts >>= next).run.run engine =
      match engine.world.evaluate path counts with
      | (world, .ok text) => (next text).run.run { engine with world }
      | (world, .error error) => (.error error, { engine with world }) := by
  rw [run_bind, evaluate, run_change]
  rcases engine.world.evaluate path counts with ⟨world, error | text⟩ <;> rfl

theorem run_focus_bind {β : Type} (next : Nat → Play β) (engine : Engine) :
    (focus >>= next).run.run engine = (next engine.world.focus).run.run engine := rfl

theorem run_returning {α β : Type} (first : Play α) (make : α → β) (engine : Engine) :
    (first >>= fun given => pure (make given)).run.run engine =
      ((first.run.run engine).1.map make, (first.run.run engine).2) := by
  rw [run_bind]
  rcases first.run.run engine with ⟨error | given, after⟩ <;> rfl

/-- Of the locations of a world, all may still be described but the one that is described first and
those where the way has been before. -/
structure Remaining (world : World) (visited others : List Nat) : Prop where
  mem_iff : ∀ number, number ∈ others ↔
    number < world.entities.length ∧ number ∉ world.focus :: visited
  distinct : others.Nodup

/-- At the beginning the way has been nowhere. -/
theorem remaining_range (world : World) :
    Remaining world [] ((List.range world.entities.length).erase world.focus) where
  mem_iff number := by
    rw [List.nodup_range.mem_erase_iff, List.mem_range, List.mem_singleton, and_comm]
  distinct := List.nodup_range.erase _

namespace Remaining

variable {world after : World} {visited others : List Nat}

/-- Where the way goes on, it has been at the location before as well. -/
theorem next (left : Remaining world visited others) (same : after.plan = world.plan) :
    Remaining after (world.focus :: visited) (others.erase after.focus) where
  mem_iff number := by
    rw [left.distinct.mem_erase_iff, left.mem_iff, length_entities_congr same,
      List.mem_cons (b := after.focus)]
    grind
  distinct := left.distinct.erase _

end Remaining

/-- A description ends. It goes on a tour and shows its stops, or a telling fails on the way. The
induction is on the locations that may still be described. -/
theorem run_describeFrom {counts : Bool} {location : Nat} {others visited : List Nat}
    {engine : Engine} (here : engine.world.focus = location)
    (left : Remaining engine.world visited others) :
    (∃ stops after, Tour counts visited engine.world stops after ∧
      (describeFrom counts location others).run.run engine =
        (.ok (stops.flatMap (·.lines after)), { engine with world := after })) ∨
    ∃ error after, Strands counts visited engine.world error after ∧
      (describeFrom counts location others).run.run engine =
        (.error error, { engine with world := after }) := by
  induction location, others using describeFrom.induct generalizing engine visited with
  | case1 location others ih =>
      subst here
      rw [describeFrom, run_evaluate_bind]
      rcases ended : engine.world.evaluate ⟨engine.world.focus, .body, []⟩ counts with
        ⟨between, error | text⟩
      case error => exact .inr ⟨error, between, .here ended, rfl⟩
      case ok =>
        have plans := Tour.plan_of_told ended
        dsimp only
        rw [run_get_bind, run_focus_bind]
        dsimp only
        split
        next still =>
          exact .inl ⟨_, _, .stays ended still, by simp [Stop.lines]; rfl⟩
        next moved =>
          split
          next member =>
            have new := ((left.mem_iff _).1 member).2
            rw [run_returning]
            have there : { engine with world := between }.world.focus = between.focus := rfl
            rcases ih between.focus member there (left.next plans) with
              ⟨stops, after, tour, shows⟩ | ⟨error, after, strands, fails⟩
            · refine .inl ⟨_, after, .goes ended new tour, ?_⟩
              rw [shows, List.flatMap_cons, Stop.lines, nameOf_congr tour.plan_eq]
              rfl
            · refine .inr ⟨error, after, .later ended new strands, ?_⟩
              rw [fails]
              rfl
          next closed =>
            -- The focus is at none of the locations that are left, so the way has been there.
            have within := lt_of_isLocation (isLocation_of_told ended moved)
            have before : between.focus ∈ visited := by
              by_contra new
              rw [length_entities_congr plans] at within
              exact closed ((left.mem_iff _).2 ⟨within, by simp [new, moved]⟩)
            exact .inl ⟨_, _, .returns ended moved before, by simp [Stop.lines]; rfl⟩

/-- A description that succeeds shows the stops of its tour. -/
theorem tour_of_describeFrom {counts : Bool} {engine after : Engine} {lines : List String}
    (gives : Gives (describeFrom counts engine.world.focus
      ((List.range engine.world.entities.length).erase engine.world.focus)) engine lines after) :
    ∃ stops, Tour counts [] engine.world stops after.world ∧
      lines = stops.flatMap (·.lines after.world) := by
  rcases run_describeFrom rfl (remaining_range engine.world) with
    ⟨stops, world, tour, shows⟩ | ⟨_, _, _, fails⟩
  · cases gives.symm.trans shows
    exact ⟨stops, tour, rfl⟩
  · cases gives.symm.trans fails

end Play

end Narrative
