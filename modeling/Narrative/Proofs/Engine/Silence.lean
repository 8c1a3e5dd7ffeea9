/-
Module: Narrative.Proofs.Engine.Silence
Purpose: When a command is said to have had no effect. Nothing could be combined, or an interaction was
  told that gave no text and did not move the focus; what impacts it brought has been applied all the
  same, so the world is as it was only if there are none.
Main exports: World.Hushes, World.wordless_of_told, Engine.choice?, Engine.partners?,
  Engine.noEffect_iff, Engine.noEffect_means
-/
import Narrative.Proofs.Engine.Moves
import Narrative.Proofs.World.Opened

namespace Narrative

/-! ### Tellings without text, and without impacts -/

namespace World

variable {world after : World} {top : NodePath} {counts : Bool}

/-- To tell the node gives no text, and it is not noticed that the focus moves. -/
def Hushes (world : World) (path : NodePath) (after : World) : Prop :=
  world.evaluate path true = (after, .ok "") ∧ after.focusMoved = false

/-- If a telling gives no text, no passage that it tells has a description: even an empty one would have
the number of its tellings in front. -/
theorem wordless_of_told (told : world.evaluate top counts = (after, .ok "")) :
    ∀ visit ∈ world.visits top, visit.2.description? = none := by
  obtain ⟨harvest, collected, silent, _⟩ := exists_harvest_of_told told
  obtain ⟨leads, _⟩ := brings_visits collected
  have blank : ∀ part ∈ harvest.parts, part = "" := by
    have nothing : harvest.parts.flatMap String.toList = [] := by
      rw [← String.toList_join, show String.join harvest.parts = "" from silent]
      rfl
    simpa [List.flatMap_eq_nil_iff] using nothing
  intro visit member
  have among : visit.2.lead ∈ harvest.parts.map .ok := leads ▸ List.mem_map_of_mem member
  obtain ⟨part, brought, leads⟩ := List.mem_map.1 among
  rw [blank part brought] at leads
  unfold Passage.lead at leads
  split at leads
  next none => exact none
  next => split at leads <;> simp at leads

/-- If no passage that it tells has impacts, a telling counts, and changes nothing else. -/
theorem eq_collect_of_told {text : String} (told : world.evaluate top counts = (after, .ok text))
    (powerless : ∀ visit ∈ world.visits top, visit.2.impacts = []) :
    after = (world.collect top counts).1 := by
  obtain ⟨harvest, collected, _, applied⟩ := exists_harvest_of_told told
  obtain ⟨_, impacts⟩ := brings_visits collected
  rw [impacts, List.flatMap_eq_nil_iff.2 powerless] at applied
  exact (Prod.mk.inj applied).1.symm

theorem journal_collect (world : World) (top : NodePath) (counts : Bool) :
    (world.collect top counts).1.journal = world.journal := by
  unfold collect
  split <;> rfl

end World

/-! ### What a line chooses -/

namespace Engine

/-- The option at a location that a command chooses. -/
def optionFor? (engine : Engine) : Command → Option Choice
  | .choose key => engine.options.lookup key
  | .back => engine.options.lookup 'x'
  | .look | .inventory | .help => none

/-- The other entity that a command combines an item with. -/
def partnerFor? (engine : Engine) (selected : Nat) : Command → Option Nat
  | .choose key => (engine.items.lookup key).filter (· ≠ selected)
  | .back => some engine.world.focus
  | .look | .inventory | .help => none

/-- The option that a line chooses, if the player is at a location. -/
def choice? (engine : Engine) (line : String) : Option Choice :=
  match engine.mode, Command.parse line with
  | .explore _, .ok command => engine.optionFor? command
  | _, _ => none

/-- The entities that a line combines, if the player has begun to combine an item. -/
def partners? (engine : Engine) (line : String) : Option (Nat × Nat) :=
  match engine.mode, Command.parse line with
  | .combine selected, .ok command => (engine.partnerFor? selected command).map (selected, ·)
  | _, _ => none

end Engine

namespace Play

variable {engine after : Engine} {reply : Reply}

/-- A reply that is always made as one of a command that was carried out is one. -/
theorem ok_of_returning {α : Type} {first : Play α} {make : α → Reply}
    (each : ∀ value, (make value).status = .ok)
    (gives : Gives (do return make (← first)) engine reply after) : reply.status = .ok := by
  obtain ⟨value, _, rfl⟩ := gives_returning.1 gives
  exact each value

theorem noEffect_of_interaction {location position : Nat}
    (gives : Gives (choose (.interaction location position)) engine reply after) :
    reply.status = .noEffect ↔
      engine.world.Hushes ⟨location, .interaction position, []⟩ after.world := by
  rw [choose, gives_evaluate_bind] at gives
  obtain ⟨response, world, told, gives⟩ := gives
  rw [World.Hushes, told, Prod.mk.injEq, Except.ok.injEq]
  rw [gives_focusMoved_bind] at gives
  split at gives
  next moved =>
    rw [ok_of_returning (fun _ => rfl) gives]
    simp only [reduceCtorEq, false_iff]
    rintro ⟨⟨rfl, _⟩, still⟩
    exact absurd moved (by simp [still])
  next still =>
    split at gives
    next empty =>
      obtain ⟨text, shows, rfl⟩ := gives_returning.1 gives
      obtain rfl := gives_describeOptions shows
      simpa [Reply.noEffect, String.isEmpty_iff.1 empty] using still
    next filled =>
      rw [ok_of_returning (fun _ => rfl) gives]
      simp only [reduceCtorEq, false_iff]
      rintro ⟨⟨_, rfl⟩, _⟩
      exact filled rfl

theorem noEffect_of_choose {choice : Choice} (gives : Gives (choose choice) engine reply after) :
    reply.status = .noEffect ↔ ∃ location position, choice = .interaction location position ∧
      engine.world.Hushes ⟨location, .interaction position, []⟩ after.world := by
  cases choice with
  | location number =>
      rw [choose, setFocus, gives_change_bind] at gives
      obtain ⟨_, _, gives⟩ := gives
      simp [ok_of_returning (fun _ => rfl) gives]
  | interaction location position =>
      rw [noEffect_of_interaction gives]
      simp

theorem noEffect_of_combineWith {selected other : Nat}
    (gives : Gives (combineWith selected other) engine reply after) :
    reply.status = .noEffect ↔
      engine.world.combinationOf other selected = .ok none ∧ after.world = engine.world := by
  rw [combineWith, gives_setMode_bind, gives_ask_bind] at gives
  obtain ⟨path?, asked, gives⟩ := gives
  rw [show engine.world.combinationOf other selected = _ from asked]
  split at gives
  next =>
    obtain ⟨text, shows, rfl⟩ := gives_returning.1 gives
    obtain rfl := gives_describeInventory shows
    simp [Reply.noEffect]
  next path =>
    have fine : reply.status = .ok := by
      rw [gives_evaluate_bind] at gives
      obtain ⟨response, world, _, gives⟩ := gives
      rw [gives_focusMoved_bind] at gives
      split at gives
      · rw [gives_setMode_bind] at gives
        exact ok_of_returning (fun _ => rfl) gives
      · exact ok_of_returning (fun _ => rfl) gives
    simp [fine]

theorem noEffect_of_chooseOption {key : Char} {refusal : Reply} (refuses : refusal.status = .invalid)
    (gives : Gives (do
      match (← get).options.lookup key with
      | some choice => choose choice
      | none => return refusal) engine reply after) :
    reply.status = .noEffect ↔ ∃ location position,
      engine.options.lookup key = some (.interaction location position) ∧
      engine.world.Hushes ⟨location, .interaction position, []⟩ after.world := by
  rw [gives_get_bind] at gives
  split at gives
  next choice found => simp [noEffect_of_choose gives, found]
  next missing =>
    obtain ⟨rfl, _⟩ := gives_pure.1 gives
    simp [refuses, missing]

theorem ok_of_askPartner {item : Nat} (gives : Gives (askPartner item) engine reply after) :
    reply.status = .ok := by
  rw [askPartner, gives_get_bind] at gives
  exact ok_of_returning (fun _ => rfl) gives

theorem ok_of_examine {item : Nat} (gives : Gives (examine item) engine reply after) :
    reply.status = .ok := by
  rw [examine, gives_evaluate_bind] at gives
  obtain ⟨_, _, _, gives⟩ := gives
  exact ok_of_returning (fun _ => rfl) gives

/-! ### The modes -/

theorem noEffect_of_handleExplore {command : Command}
    (gives : Gives (handleExplore command) engine reply after) :
    reply.status = .noEffect ↔ ∃ location position,
      engine.optionFor? command = some (.interaction location position) ∧
      engine.world.Hushes ⟨location, .interaction position, []⟩ after.world := by
  cases command with
  | help =>
      obtain ⟨rfl, _⟩ := gives_pure.1 gives
      simp [Engine.optionFor?, Reply.ok]
  | look =>
      have fine := ok_of_returning (fun _ => rfl) gives
      simp [Engine.optionFor?, fine]
  | inventory =>
      rw [handleExplore, gives_setMode_bind] at gives
      have fine := ok_of_returning (fun _ => rfl) gives
      simp [Engine.optionFor?, fine]
  | back | choose => exact noEffect_of_chooseOption rfl gives

theorem status_of_handleInventory {selected? : Option Nat} {command : Command}
    (gives : Gives (handleInventory selected? command) engine reply after) :
    reply.status = .ok ∨ reply.status = .invalid := by
  cases command with
  | help =>
      obtain ⟨rfl, _⟩ := gives_pure.1 gives
      exact .inl rfl
  | look | inventory => exact .inl (ok_of_returning (fun _ => rfl) gives)
  | back =>
      rw [handleInventory, gives_setMode_bind] at gives
      exact .inl (ok_of_returning (fun _ => rfl) gives)
  | choose key =>
      rw [handleInventory, gives_get_bind] at gives
      split at gives
      next =>
        obtain ⟨rfl, _⟩ := gives_pure.1 gives
        exact .inr rfl
      next item found =>
        split at gives
        · rw [gives_setMode_bind] at gives
          exact .inl (ok_of_askPartner gives)
        · rw [gives_setMode_bind] at gives
          exact .inl (ok_of_examine gives)

theorem noEffect_of_handleCombine {selected : Nat} {command : Command}
    (gives : Gives (handleCombine selected command) engine reply after) :
    reply.status = .noEffect ↔ ∃ other, engine.partnerFor? selected command = some other ∧
      engine.world.combinationOf other selected = .ok none ∧ after.world = engine.world := by
  cases command with
  | help =>
      obtain ⟨rfl, _⟩ := gives_pure.1 gives
      simp [Engine.partnerFor?, Reply.ok]
  | look | inventory => simp [Engine.partnerFor?, ok_of_askPartner gives]
  | back =>
      rw [handleCombine, gives_focus_bind] at gives
      simp [Engine.partnerFor?, noEffect_of_combineWith gives]
  | choose key =>
      rw [handleCombine, gives_get_bind] at gives
      split at gives
      next missing =>
        obtain ⟨rfl, _⟩ := gives_pure.1 gives
        simp [Engine.partnerFor?, missing, Reply.notAnItem, Reply.invalid]
      next item found =>
        split at gives
        next same =>
          rw [gives_setMode_bind] at gives
          simp [Engine.partnerFor?, found, same, ok_of_examine gives]
        next differs =>
          simp [Engine.partnerFor?, found, differs, noEffect_of_combineWith gives]

end Play

namespace Engine

open World

variable {engine after : Engine} {line : String} {reply : Reply}

theorem optionFor?_received (command : Command) :
    engine.received.optionFor? command = engine.optionFor? command := by
  cases command <;> rfl

theorem partnerFor?_received (selected : Nat) (command : Command) :
    engine.received.partnerFor? selected command = engine.partnerFor? selected command := by
  cases command <;> rfl

/-- A command is said to have had no effect just if nothing could be combined, or if an interaction gave
no text and no move of the focus was noticed. -/
theorem noEffect_iff (gives : Play.Gives (Play.handleLine line) engine reply after) :
    reply.status = .noEffect ↔
      (∃ selected other, engine.partners? line = some (selected, other) ∧
        engine.received.world.combinationOf other selected = .ok none ∧
        after.world = engine.received.world) ∨
      ∃ location position, engine.choice? line = some (.interaction location position) ∧
        engine.received.world.Hushes ⟨location, .interaction position, []⟩ after.world := by
  unfold partners? choice?
  cases parsed : Command.parse line with
  | error error =>
      rw [Play.handleLine, parsed] at gives
      obtain ⟨rfl, _⟩ := Play.gives_pure.1 gives
      cases engine.mode <;> simp [Reply.invalid]
  | ok command =>
      rw [Play.Gives, run_handleLine parsed] at gives
      cases mode : engine.mode with
      | explore selected? =>
          rw [mode] at gives
          simpa [optionFor?_received] using Play.noEffect_of_handleExplore gives
      | inventory selected? =>
          rw [mode] at gives
          rcases Play.status_of_handleInventory gives with fine | refused
          · simp [fine]
          · simp [refused]
      | combine selected =>
          rw [mode] at gives
          simpa [partnerFor?_received] using Play.noEffect_of_handleCombine gives

/-- The passages that a line tells if it chooses an interaction. -/
def told (engine : Engine) (line : String) : List (NodePath × Passage) :=
  match engine.choice? line with
  | some (.interaction location position) =>
    engine.received.world.visits ⟨location, .interaction position, []⟩
  | _ => []

theorem told_of_choice? {location position : Nat}
    (chosen : engine.choice? line = some (.interaction location position)) :
    engine.told line = engine.received.world.visits ⟨location, .interaction position, []⟩ := by
  rw [told, chosen]

/-- Who combines something tells no interaction. -/
theorem told_of_partners? {partners : Nat × Nat} (combined : engine.partners? line = some partners) :
    engine.told line = [] := by
  unfold partners? at combined
  split at combined
  next selected command mode parsed => simp [told, choice?, mode]
  next => cases combined

theorem tagsOf_received (holder : Holder) :
    engine.received.world.tagsOf holder = engine.world.tagsOf holder := by
  cases holder <;> rfl

/-- What it means that a command had no effect. Take a world that was built, any moment of a game, and a
line that then gets a reply. The reply says that there was no effect just if nothing could be combined,
or if an interaction gave no text and no move of the focus was noticed. Then no passage that was told has
a description. If none has impacts, nothing that is held has changed, nor has the focus, and no event was
recorded; otherwise the impacts have been applied. As long as the listeners only note events, the focus
has not moved in any case, and no event has told of it. -/
theorem noEffect_means {model : Model.World} {bus : Bus Handler} {world : World}
    (built : model.build bus = .ok world) (exitName : String) (lines : List String)
    {step : Except EvaluationError Reply × Engine} (played : step ∈ (start world exitName).play lines)
    {line : String} {reply : Reply} {after : Engine}
    (gives : Play.Gives (Play.handleLine line) step.2 reply after) :
    (reply.status = .noEffect ↔
      (∃ selected other, step.2.partners? line = some (selected, other) ∧
        step.2.received.world.combinationOf other selected = .ok none ∧
        after.world = step.2.received.world) ∨
      ∃ location position, step.2.choice? line = some (.interaction location position) ∧
        step.2.received.world.Hushes ⟨location, .interaction position, []⟩ after.world) ∧
    (reply.status = .noEffect →
      (∀ visit ∈ step.2.told line, visit.2.description? = none) ∧
      ((∀ visit ∈ step.2.told line, visit.2.impacts = []) →
        (∀ holder, after.world.tagsOf holder = step.2.world.tagsOf holder) ∧
        after.world.focus = step.2.world.focus ∧ after.world.journal = step.2.world.journal) ∧
      (bus.Quiet → after.world.focus = step.2.world.focus ∧
        ∃ events, after.world.journal = step.2.world.journal ++ events ∧
          ∀ event ∈ events, event.isOfFocus = false)) := by
  have iff := noEffect_iff gives
  refine ⟨iff, fun silent => ?_⟩
  rcases iff.1 silent with ⟨selected, other, partners, _, same⟩ | ⟨location, position, chosen, told, still⟩
  · rw [told_of_partners? partners, same]
    refine ⟨by simp, fun _ => ⟨tagsOf_received, rfl, rfl⟩, fun _ => ⟨rfl, [], ?_, by simp⟩⟩
    exact (List.append_nil _).symm
  · rw [told_of_choice? chosen]
    refine ⟨wordless_of_told told, fun powerless => ?_, fun quiet => ?_⟩
    · rw [eq_collect_of_told told powerless]
      refine ⟨fun holder => ?_, focus_collect _ _ _, journal_collect _ _ _⟩
      rw [tagsOf_collect, tagsOf_received]
    · obtain ⟨well, _⟩ := Model.World.follows_of_build built
      obtain ⟨_, listening⟩ := listening_of_play built quiet exitName lines step played
      have begun : Unmoved world.plan step.2.received.world step.2.received.world :=
        .refl (listening.of_same rfl rfl)
      have unmoved := (account_unmoved well _).evaluate begun ⟨location, .interaction position, []⟩ true
      rw [told] at unmoved
      exact unmoved.noticed.resolve_left (by simp [still])

/-- A hall with a lever that says nothing when it is pulled. -/
def silentLever : Model.World where
  start := "hall"
  title := "Lever"
  player := {}
  locations := [{
    name := "Hall", key? := some "hall", tags? := none, passage := {}, disableExit := false
    descriptors := [], locations := [], combinations := []
    interactions := [⟨"Pull", { impact? := some "+pulled" }, []⟩, ⟨"Wait", {}, []⟩] }]
  items := []

/-- Whether a line is said to have had no effect. -/
def isSilent (engine : Engine) (line : String) : Bool :=
  ((Play.handleLine line).run.run engine).1.toOption.any (·.status = .noEffect)

theorem exists_of_isSilent (silent : engine.isSilent line = true) :
    ∃ reply, Play.Gives (Play.handleLine line) engine reply
        ((Play.handleLine line).run.run engine).2 ∧ reply.status = .noEffect := by
  obtain ⟨reply, replied, status⟩ := (Option.any_eq_true _ _).1 silent
  exact ⟨reply, Prod.ext (eq_ok_of_toOption replied) rfl, of_decide_eq_true status⟩

/-- Neither the lever nor waiting is said to have an effect. Waiting has none, but the pulled lever sets a
tag, which is recorded; the focus stays where it is. -/
theorem noEffect_means_silentLever :
    ∃ world step, silentLever.build (.recording [.tagChanged]) = .ok world ∧
      step ∈ (start world usualExitName).play [] ∧
      (∃ reply after, Play.Gives (Play.handleLine "1") step.2 reply after ∧
        reply.status = .noEffect ∧ after.world.focus = step.2.world.focus ∧
        "pulled" ∉ step.2.world.tagsOf (.entity 0) ∧ "pulled" ∈ after.world.tagsOf (.entity 0) ∧
        after.world.journal = step.2.world.journal ++ [.tagChanged "hall" "pulled" true]) ∧
      ∃ reply after, Play.Gives (Play.handleLine "2") step.2 reply after ∧
        reply.status = .noEffect ∧ ∀ holder, after.world.tagsOf holder = step.2.world.tagsOf holder := by
  have checked : (silentLever.build (.recording [.tagChanged])).toOption.any (fun world =>
      let engine := (Play.intro.run.run (start world usualExitName)).2
      let pulled := ((Play.handleLine "1").run.run engine).2.world
      engine.isSilent "1" && engine.isSilent "2" &&
        (engine.told "2").all (·.2.impacts.isEmpty) &&
        decide ("pulled" ∉ engine.world.tagsOf (.entity 0) ∧ "pulled" ∈ pulled.tagsOf (.entity 0) ∧
          pulled.journal = engine.world.journal ++ [.tagChanged "hall" "pulled" true])) = true := by
    decide +kernel
  obtain ⟨world, built, checked⟩ := (Option.any_eq_true _ _).1 checked
  simp only [Bool.and_eq_true, decide_eq_true_eq] at checked
  obtain ⟨⟨⟨pull, wait⟩, powerless⟩, unpulled, pulled, recorded⟩ := checked
  obtain ⟨reply, pulls, silent⟩ := exists_of_isSilent pull
  obtain ⟨other, waits, idle⟩ := exists_of_isSilent wait
  have built := eq_ok_of_toOption built
  have played : Play.intro.run.run (start world usualExitName) ∈ (start world usualExitName).play [] :=
    List.mem_cons_self
  have quiet : Bus.Quiet (.recording [.tagChanged]) := (Bus.records_recording (by decide)).toQuiet
  have pulling := (noEffect_means built usualExitName [] played pulls).2 silent
  have waiting := (noEffect_means built usualExitName [] played waits).2 idle
  refine ⟨world, _, built, played, ⟨reply, _, pulls, silent, (pulling.2.2 quiet).1, unpulled, pulled,
    recorded⟩, other, _, waits, idle, (waiting.2.1 fun visit member => ?_).1⟩
  exact List.isEmpty_iff.1 (List.all_eq_true.1 powerless visit member)

end Engine

end Narrative
