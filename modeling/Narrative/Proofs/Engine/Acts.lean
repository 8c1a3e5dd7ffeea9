/-
Module: Narrative.Proofs.Engine.Acts
Purpose: What the engine does to the world. Whatever a command does and however it ends, the world
  goes from act to act, so what acts keep holds in every game. A line moves the focus by itself only
  to a location that is among the options.
Main exports: World.Act.Moves, Play.Performs, Play.Performs.bind, Engine.Offers,
  Play.performs_describeLocation, Play.performs_intro, Play.performs_handleLine
-/
import Narrative.Proofs.Engine.Session
import Narrative.Proofs.World.Acts

namespace Narrative

/-- An act of the engine: it applies no impacts by themselves, and if it moves the focus, then to a
location that fits. -/
def World.Act.Moves (Fits : Nat → Prop) : World.Act → Prop
  | .setFocus location => Fits location
  | .apply .. => False
  | .evaluate .. | .receive | .note _ => True

/-- The location is among the options that were shown last. -/
def Engine.Offers (engine : Engine) (location : Nat) : Prop :=
  .location location ∈ engine.options.map (·.2)

namespace Play

variable {α β : Type} {Fits : Nat → Prop} {engine : Engine}

/-- From the engine, and whatever comes of it, the action does nothing to the world but acts, which
move the focus only to locations that fit. -/
def Performs (Fits : Nat → Prop) (action : Play α) (engine : Engine) : Prop :=
  ∃ acts : List World.Act, (∀ act ∈ acts, act.Moves Fits) ∧
    (action.run.run engine).2.world = engine.world.performAll acts

namespace Performs

/-- What does nothing to the world needs no act. -/
theorem of_same {action : Play α} (same : (action.run.run engine).2.world = engine.world) :
    Performs Fits action engine :=
  ⟨[], by simp, same⟩

/-- What does one act to the world. -/
theorem of_act {action : Play α} (act : World.Act) (moves : act.Moves Fits)
    (done : (action.run.run engine).2.world = engine.world.perform act) :
    Performs Fits action engine :=
  ⟨[act], by simpa using moves, done⟩

theorem pure (value : α) : Performs Fits (pure value) engine := of_same rfl

theorem bind {first : Play α} {next : α → Play β} (performs : Performs Fits first engine)
    (continues : ∀ value after, Performs Fits (next value) after) :
    Performs Fits (first >>= next) engine := by
  obtain ⟨acts, move, done⟩ := performs
  unfold Performs
  rw [run_bind]
  split
  next value after ended =>
    rw [ended] at done
    obtain ⟨others, also, rest⟩ := continues value after
    exact ⟨acts ++ others, List.forall_mem_append.2 ⟨move, also⟩,
      by rw [rest, done, World.performAll_append]⟩
  next error after ended =>
    rw [ended] at done
    exact ⟨acts, move, done⟩

/-- What is asked of the engine is what it is. -/
theorem get_bind {next : Engine → Play β} (continues : Performs Fits (next engine) engine) :
    Performs Fits (get >>= next) engine := continues

/-- Whatever is made of the value of an action may be returned. -/
theorem returning {first : Play α} (performs : Performs Fits first engine) (make : α → β) :
    Performs Fits (first >>= fun value => Pure.pure (make value)) engine :=
  performs.bind fun value _ => Performs.pure (make value)

end Performs

/-! ### Simple actions -/

theorem performs_evaluate (top : NodePath) (counts : Bool) :
    Performs Fits (evaluate top counts) engine := by
  refine Performs.of_act (.evaluate top counts) trivial ?_
  rw [evaluate, run_change]
  rfl

theorem performs_setFocus {location : Nat} (fits : Fits location) :
    Performs Fits (setFocus location) engine := by
  refine Performs.of_act (.setFocus location) fits ?_
  rw [setFocus, run_change]
  rfl

theorem performs_ask (question : World → Except EvaluationError α) :
    Performs Fits (ask question) engine := by
  apply Performs.of_same
  rw [ask, run_change]

theorem performs_note (record : LogRecord) : Performs Fits (note record) engine :=
  Performs.of_act (.note record) trivial rfl

theorem performs_focus : Performs Fits focus engine := Performs.of_same rfl

theorem performs_focusMoved : Performs Fits focusMoved engine := Performs.of_same rfl

theorem performs_setMode (mode : Mode) : Performs Fits (setMode mode) engine := Performs.of_same rfl

/-- What is done to the engine alone does nothing to the world. -/
theorem performs_modify {change : Engine → Engine} (same : (change engine).world = engine.world) :
    Performs Fits (modify change) engine :=
  Performs.of_same same

/-! ### What the engine shows -/

theorem performs_addOptions (options : List (Char × Choice)) :
    Performs Fits (addOptions options) engine := performs_modify rfl

theorem performs_optionLines (options : List (Char × Choice)) :
    Performs Fits (optionLines options) engine := Performs.of_same rfl

theorem performs_describeOptions : Performs Fits describeOptions engine := by
  refine performs_focus.bind fun location _ => ?_
  refine (performs_modify rfl).bind fun _ _ => ?_
  refine (performs_ask _).bind fun positions _ => ?_
  refine (performs_addOptions _).bind fun _ _ => ?_
  refine (performs_ask _).bind fun numbers _ => ?_
  refine (performs_addOptions _).bind fun _ _ => ?_
  apply Performs.get_bind
  refine (performs_addOptions _).bind fun _ _ => ?_
  refine (performs_optionLines _).bind fun _ _ => ?_
  exact (performs_optionLines _).returning _

theorem performs_describeInventory : Performs Fits describeInventory engine := by
  refine (performs_modify rfl).bind fun _ _ => ?_
  refine (performs_ask _).bind fun items _ => ?_
  refine (performs_modify rfl).bind fun _ _ => ?_
  exact Performs.get_bind (Performs.pure _)

/-- The induction is on the locations that may still be described. -/
theorem performs_describeFrom (counts : Bool) (location : Nat) (others : List Nat) :
    Performs Fits (describeFrom counts location others) engine := by
  induction location, others using describeFrom.induct generalizing engine with
  | case1 location others ih =>
      rw [describeFrom]
      refine (performs_evaluate _ counts).bind fun description _ => ?_
      apply Performs.get_bind
      refine performs_focus.bind fun next _ => ?_
      split
      · exact Performs.pure _
      · split
        next member => exact (ih next member).returning _
        · exact (performs_note _).returning _

theorem performs_describeLocation (counts : Bool) :
    Performs Fits (describeLocation counts) engine := by
  apply Performs.get_bind
  refine (performs_describeFrom counts _ _).bind fun lines _ => ?_
  exact performs_describeOptions.returning _

/-! ### Commands -/

theorem performs_intro : Performs Fits intro engine := (performs_describeLocation true).returning _

theorem performs_choose {choice : Choice}
    (fits : ∀ location, choice = .location location → Fits location) :
    Performs Fits (choose choice) engine := by
  cases choice with
  | location number =>
      refine (performs_setFocus (fits number rfl)).bind fun _ _ => ?_
      exact (performs_describeLocation true).returning _
  | interaction location position =>
      refine (performs_evaluate _ true).bind fun response _ => ?_
      refine performs_focusMoved.bind fun moved _ => ?_
      split
      · exact (performs_describeLocation true).returning _
      · split
        · exact performs_describeOptions.returning _
        · exact performs_describeOptions.returning _

theorem performs_askPartner (item : Nat) : Performs Fits (askPartner item) engine := by
  apply Performs.get_bind
  exact performs_describeInventory.returning _

theorem performs_examine (item : Nat) : Performs Fits (examine item) engine := by
  refine (performs_evaluate _ true).bind fun description _ => ?_
  exact performs_describeInventory.returning _

/-- What stands under a key is chosen, or the key is refused. -/
theorem performs_chooseOption (key : Char) (otherwise : Reply) :
    Performs engine.Offers (do
      match (← get).options.lookup key with
      | some choice => choose choice
      | none => return otherwise) engine := by
  apply Performs.get_bind
  split
  next choice found =>
    apply performs_choose
    rintro location rfl
    exact List.mem_map_of_mem (f := Prod.snd) (mem_of_lookup found)
  next => exact Performs.pure _

theorem performs_handleExplore (command : Command) :
    Performs engine.Offers (handleExplore command) engine := by
  cases command with
  | help => exact Performs.pure _
  | look => exact (performs_describeLocation false).returning _
  | inventory =>
      refine (performs_setMode _).bind fun _ _ => ?_
      exact performs_describeInventory.returning _
  | back => exact performs_chooseOption exitKey _
  | choose key => exact performs_chooseOption key _

theorem performs_handleInventory (selected? : Option Nat) (command : Command) :
    Performs Fits (handleInventory selected? command) engine := by
  cases command with
  | help => exact Performs.pure _
  | back =>
      refine (performs_setMode _).bind fun _ _ => ?_
      exact (performs_describeLocation true).returning _
  | look | inventory => exact performs_describeInventory.returning _
  | choose key =>
      apply Performs.get_bind
      split
      · exact Performs.pure _
      · split
        · refine (performs_setMode _).bind fun _ _ => ?_
          exact performs_askPartner _
        · refine (performs_setMode _).bind fun _ _ => ?_
          exact performs_examine _

theorem performs_combineWith (selected other : Nat) :
    Performs Fits (combineWith selected other) engine := by
  refine (performs_setMode _).bind fun _ _ => ?_
  refine (performs_ask _).bind fun path? _ => ?_
  split
  · exact performs_describeInventory.returning _
  · refine (performs_evaluate _ true).bind fun response _ => ?_
    refine performs_focusMoved.bind fun moved _ => ?_
    split
    · refine (performs_setMode _).bind fun _ _ => ?_
      exact (performs_describeLocation true).returning _
    · exact performs_describeInventory.returning _

theorem performs_handleCombine (selected : Nat) (command : Command) :
    Performs Fits (handleCombine selected command) engine := by
  cases command with
  | help => exact Performs.pure _
  | look | inventory => exact performs_askPartner selected
  | back =>
      refine performs_focus.bind fun location _ => ?_
      exact performs_combineWith selected location
  | choose key =>
      apply Performs.get_bind
      split
      · exact Performs.pure _
      · split
        · refine (performs_setMode _).bind fun _ _ => ?_
          exact performs_examine selected
        · exact performs_combineWith selected _

/-- What the mode makes of a command. -/
theorem performs_inMode (engine : Engine) (command : Command) :
    Performs engine.Offers (do
      match (← get).mode with
      | .explore _ => handleExplore command
      | .inventory selected? => handleInventory selected? command
      | .combine selected => handleCombine selected command) engine := by
  apply Performs.get_bind
  split
  · exact performs_handleExplore command
  · exact performs_handleInventory _ command
  · exact performs_handleCombine _ command

theorem performs_handle (command : Command) : Performs engine.Offers (handle command) engine := by
  obtain ⟨acts, move, done⟩ :=
    performs_inMode { engine with world := { engine.world with focusMoved := false } } command
  exact ⟨.receive :: acts, List.forall_mem_cons.2 ⟨trivial, move⟩, done⟩

/-- Whatever line the player types, the world goes from act to act. -/
theorem performs_handleLine (line : String) :
    Performs engine.Offers (handleLine line) engine := by
  unfold handleLine
  split
  · exact Performs.pure _
  · exact performs_handle _

end Play

end Narrative
