/-
Module: Narrative.Proofs.Engine.Description
Purpose: A description ends. It tells no location twice, however the impacts move the focus on the way,
  it warns exactly if it was led back, and it ends with the options where the focus is then.
Main exports: World.recordsOf, World.Doubts, World.Tour.distinct, World.Tour.warned,
  Play.run_describeLocation, Play.describeLocation_ends
-/
import Narrative.Proofs.Engine.Tour

namespace Narrative

namespace World

/-! ### Records -/

/-- The records of a part of the program. -/
def recordsOf (source : LogSource) (world : World) : List LogRecord :=
  world.log.filter (·.source = source)

/-- Impacts, events and moves of the focus are recorded as matters of events only, whoever listens. -/
theorem guarded_recordsOf {source : LogSource} (other : source ≠ .events) (world : World) :
    Guarded (fun _ => True) (fun _ => True) fun after =>
      after.recordsOf source = world.recordsOf source where
  listeners {after} _ := after.bus.within_true
  turn {_ holder _ _ _} kept _ _ := by
    cases holder <;> exact kept
  fits _ _ := trivial
  focus _ kept := kept
  shift _ kept := kept
  note _ _ kept := kept
  record {after record} about kept := by
    rw [← kept]
    simp [recordsOf, List.filter_append, about, other.symm]

theorem recordsOf_collect (source : LogSource) (world : World) (path : NodePath) (counts : Bool) :
    (world.collect path counts).1.recordsOf source = world.recordsOf source := by
  unfold collect
  split <;> rfl

/-- The engine records nothing about a telling. -/
theorem recordsOf_of_told {world after : World} {path : NodePath} {counts : Bool} {text : String}
    (told : world.evaluate path counts = (after, .ok text)) :
    after.recordsOf .engine = world.recordsOf .engine := by
  have kept := (guarded_recordsOf (by decide) world).evaluate
    (recordsOf_collect .engine world path counts) fun _ _ _ _ => trivial
  rw [told] at kept
  exact kept

/-! ### Tours -/

namespace Tour

variable {counts : Bool} {visited : List Nat} {world after : World} {stops : List Stop}

/-- A tour begins where the focus is. -/
theorem begins (tour : Tour counts visited world stops after) :
    (stops.map (·.location)).head? = some world.focus := by
  cases tour <;> rfl

/-- A tour tells no location twice, and none where the way has been before. -/
theorem distinct (tour : Tour counts visited world stops after) (new : world.focus ∉ visited) :
    (stops.map (·.location)).Nodup ∧ ∀ stop ∈ stops, stop.location ∉ visited := by
  induction tour with
  | stays | returns => simpa using new
  | goes _ next _ ih =>
      obtain ⟨distinct, fresh⟩ := ih next
      constructor
      · rw [List.map_cons, List.nodup_cons]
        refine ⟨?_, distinct⟩
        intro again
        obtain ⟨stop, member, same⟩ := List.mem_map.1 again
        exact fresh stop member (by simp [same])
      · rw [List.forall_mem_cons]
        exact ⟨new, fun stop member before => fresh stop member (List.mem_cons_of_mem _ before)⟩

/-- A tour that ends where the focus stays leaves no record of the engine. One that is led back leaves
one, about the last location and the one where it was led. -/
theorem warned (tour : Tour counts visited world stops after) :
    ∃ last, stops.getLast? = some last ∧
      after.recordsOf .engine = world.recordsOf .engine ++
        if after.focus = last.location then []
        else [after.ledBack last.location after.focus] := by
  induction tour with
  | stays told still => exact ⟨_, rfl, by simp [still, recordsOf_of_told told]⟩
  | @returns _ _ between _ told moved _ =>
      refine ⟨_, rfl, ?_⟩
      rw [← recordsOf_of_told told]
      exact (List.filter_append _ _).trans (congrArg _ (if_neg moved).symm)
  | goes told _ rest ih =>
      obtain ⟨last, ends, records⟩ := ih
      refine ⟨last, ?_, by rw [records, recordsOf_of_told told]⟩
      rw [List.getLast?_cons, ends]
      rfl

end Tour

/-! ### Options in doubt -/

/-- It cannot be said of an option where the focus is whether it may be told. -/
inductive Doubts (world : World) (error : EvaluationError) : Prop
  | interaction (position : Nat)
      (doubtful : world.isAvailable ⟨world.focus, .interaction position, []⟩ = .error error)
  | inside (number : Nat) (among : number ∈ world.inside world.focus)
      (doubtful : world.isAvailable ⟨number, .body, []⟩ = .error error)

end World

namespace Play

open World

theorem run_ask_bind {α β : Type} (question : World → Except EvaluationError α) (next : α → Play β)
    (engine : Engine) : (ask question >>= next).run.run engine =
      match question engine.world with
      | .ok answer => (next answer).run.run engine
      | .error error => (.error error, engine) := by
  rw [run_bind, ask, run_change]
  cases question engine.world <;> rfl

theorem run_modify_bind {β : Type} (change : Engine → Engine) (next : Unit → Play β)
    (engine : Engine) :
    (modify change >>= next).run.run engine = (next ()).run.run (change engine) := rfl

/-- The options where the focus is are listed, unless one of them is in doubt. -/
theorem run_describeOptions (engine : Engine) :
    Gives describeOptions engine
        ({ engine with options := engine.world.offered }.menuText (.options engine.world.offered))
        { engine with options := engine.world.offered } ∨
      ∃ error options, engine.world.Doubts error ∧
        describeOptions.run.run engine = (.error error, { engine with options }) := by
  cases interactions : engine.world.availableInteractions engine.world.focus with
  | error error =>
      obtain ⟨position, _, doubtful⟩ := exists_of_availableAmong_error interactions
      refine .inr ⟨error, [], .interaction position doubtful, ?_⟩
      rw [describeOptions, run_focus_bind, run_modify_bind, run_ask_bind, interactions]
  | ok positions =>
      cases inside : engine.world.availableInside engine.world.focus with
      | error error =>
          obtain ⟨number, among, doubtful⟩ := exists_of_availableAmong_error inside
          refine .inr ⟨error, numberKeys.zip (positions.map (.interaction engine.world.focus ·)),
            .inside number among doubtful, ?_⟩
          rw [describeOptions, run_focus_bind, run_modify_bind, run_ask_bind, interactions]
          dsimp only
          rw [addOptions, run_modify_bind, run_ask_bind, inside]
          rfl
      | ok numbers =>
          obtain ⟨text, after, gives⟩ := exists_gives_describeOptions interactions inside
          obtain ⟨rfl, rfl⟩ := shows_describeOptions gives
          exact .inl gives

/-- What a description leads to that tells all its locations: the tour from the focus, with its stops.
It begins at the focus and tells each location once. It ends where the focus stays, or is led back to one
of its locations, and exactly then there is a record more of the engine. -/
structure Leads (counts : Bool) (world : World) (stops : List Stop) (after : World) : Prop where
  tour : Tour counts [] world stops after
  begins : (stops.map (·.location)).head? = some world.focus
  distinct : (stops.map (·.location)).Nodup
  ends : after.focus ∈ stops.map (·.location)
  warned : ∃ last, stops.getLast? = some last ∧
    after.recordsOf .engine = world.recordsOf .engine ++
      if after.focus = last.location then []
      else [after.ledBack last.location after.focus]

theorem leads_of_tour {counts : Bool} {world after : World} {stops : List Stop}
    (tour : Tour counts [] world stops after) : Leads counts world stops after where
  tour := tour
  begins := tour.begins
  distinct := (tour.distinct List.not_mem_nil).1
  ends := tour.focus_mem.resolve_left List.not_mem_nil
  warned := tour.warned

/-- A description goes on a tour and lists the options where that ends, or a telling fails on the way. -/
theorem run_describeLocation (engine : Engine) (counts : Bool) :
    (∃ error after, Strands counts [] engine.world error after ∧
      (describeLocation counts).run.run engine = (.error error, { engine with world := after })) ∨
    ∃ stops after, Tour counts [] engine.world stops after ∧
      (describeLocation counts).run.run engine =
        (do return joinLines (stops.flatMap (·.lines after) ++ [← describeOptions]) : Play String).run.run
          { engine with world := after } := by
  rw [describeLocation, run_get_bind, run_bind]
  rcases run_describeFrom rfl (remaining_range engine.world) with
    ⟨stops, after, tour, shows⟩ | ⟨error, after, strands, fails⟩
  · refine .inr ⟨stops, after, tour, ?_⟩
    rw [shows]
  · refine .inl ⟨error, after, strands, ?_⟩
    rw [fails]

/-- A description ends, whatever the impacts do that it brings and whoever listens. Either a telling fails
on the way, and the description with it. Or it tells some locations, none of them twice, and then lists
the options where the focus is; it fails there if one of these is in doubt, or it shows the locations in
the order in which they were told, and the options below. -/
theorem describeLocation_ends (engine : Engine) (counts : Bool) :
    (∃ error after, Strands counts [] engine.world error after ∧
      (describeLocation counts).run.run engine = (.error error, { engine with world := after })) ∨
    ∃ stops after, Leads counts engine.world stops after ∧
      ((∃ error options, after.Doubts error ∧
          (describeLocation counts).run.run engine =
            (.error error, { engine with world := after, options })) ∨
        ∃ told : Engine, told = { engine with world := after, options := after.offered } ∧
          Gives (describeLocation counts) engine
            ("\n".intercalate
              (stops.flatMap (·.lines after) ++ [told.menuText (.options told.options)]))
            told) := by
  unfold Gives
  rcases run_describeLocation engine counts with strands | ⟨stops, after, tour, shows⟩
  · exact .inl strands
  · refine .inr ⟨stops, after, leads_of_tour tour, ?_⟩
    rw [shows, run_returning]
    rcases run_describeOptions { engine with world := after } with
      gives | ⟨error, options, doubts, fails⟩
    · refine .inr ⟨_, rfl, ?_⟩
      rw [gives]
      rfl
    · refine .inl ⟨error, options, doubts, ?_⟩
      rw [fails]
      rfl

/-- Two rooms, each of which leads on to the other. In the first there is something to do. -/
def roundabout : Model.World where
  start := "east"
  title := "Roundabout"
  player := {}
  locations := [
    { name := "East", key? := some "east", tags? := none
      passage := { description? := some "Warm.", impact? := some ">west" }, disableExit := false
      descriptors := [], locations := [], interactions := [⟨"Wait", {}, []⟩], combinations := [] },
    { name := "West", key? := some "west", tags? := none
      passage := { description? := some "Cold.", impact? := some ">east" }, disableExit := false
      descriptors := [], locations := [], interactions := [], combinations := [] }]
  items := []

/-- The description of the rooms shows one after the other, warns, and ends in the first. -/
theorem describeLocation_ends_roundabout :
    ∃ world stops told, roundabout.build {} = .ok world ∧
      Leads true (Engine.start world usualExitName).world stops told.world ∧
      "\n".intercalate (stops.flatMap (·.lines told.world) ++ [told.menuText (.options told.options)]) =
        "[i]EAST\n\n[n][p]\x7b0\x7dWarm.\n\n[i]WEST\n\n[n][p]\x7b0\x7dCold.\n\n[i][[1] Wait" ∧
      Gives (describeLocation true) (.start world usualExitName)
        "[i]EAST\n\n[n][p]\x7b0\x7dWarm.\n\n[i]WEST\n\n[n][p]\x7b0\x7dCold.\n\n[i][[1] Wait" told ∧
      told.options = [('1', .interaction 0 0)] ∧
      told.world.log = [⟨.warning, .engine, "Focus loop entering west, stopped at east"⟩] := by
  have checked : (roundabout.build {}).toOption.any (fun world =>
      let ended := (describeLocation true).run.run (.start world usualExitName)
      decide (ended.1.toOption = some
          "[i]EAST\n\n[n][p]\x7b0\x7dWarm.\n\n[i]WEST\n\n[n][p]\x7b0\x7dCold.\n\n[i][[1] Wait" ∧
        ended.2.options = [('1', .interaction 0 0)] ∧
        ended.2.world.log = [⟨.warning, .engine, "Focus loop entering west, stopped at east"⟩])) = true := by
    decide +kernel
  obtain ⟨world, built, checked⟩ := (Option.any_eq_true _ _).1 checked
  simp only [decide_eq_true_eq] at checked
  obtain ⟨shown, options, log⟩ := checked
  rcases describeLocation_ends (.start world usualExitName) true with
    ⟨_, _, _, fails⟩ | ⟨stops, after, leads, ⟨_, _, _, fails⟩ | ⟨told, same, gives⟩⟩
  · rw [fails] at shown
    cases shown
  · rw [fails] at shown
    cases shown
  · rw [gives] at shown options log
    obtain rfl : told.world = after := by rw [same]
    have message := Option.some.inj shown
    rw [message] at gives
    exact ⟨world, stops, told, eq_ok_of_toOption built, leads, message, gives, options, log⟩

end Play

end Narrative
