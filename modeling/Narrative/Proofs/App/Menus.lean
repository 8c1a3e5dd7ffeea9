/-
Module: Narrative.Proofs.App.Menus
Purpose: The menu that is shown last and the menu that keys are looked up in. They are the same as long
  as an author goes to a location only while exploring: going there shows the options of the location
  in every mode, and does not change the mode.
Main exports: App.Request, App.Turn, App.turns, App.Turn.showsMenu, App.Turn.strays,
  App.keys_act_on_menu
-/
import Narrative.Proofs.App.Operations
import Narrative.Proofs.Engine.Screens

namespace Narrative

namespace App

/-! ### Turns -/

/-- What an app is asked to do: to begin the story, a line of the player, or a command for authors. -/
inductive Request where
  | begin
  | player (line : String)
  | author (command : DeveloperCommand)

/-- What the app is asked by a line, or by none. Commands for authors have to be allowed. -/
def request (app : App) : Option String → Request
  | none => .begin
  | some line =>
    match if app.dev then DeveloperCommand.parse? line else none with
    | none => .player line
    | some command => .author command

namespace Request

/-- What the app does about it. -/
def action : Request → Act Reply
  | .begin => Act.play Play.intro
  | .player line => Act.play (Play.handleLine line)
  | .author (.goTo arguments) => Act.goTo arguments
  | .author .state => do return .ok (Act.stateText (← get).engine.world)
  | .author (.run arguments) => Act.runScript (Act.handleNested (maxRunning - 1)) arguments

/-- Whether the request is only for something about the story or the commands: the state, or the help
text. -/
def informs : Request → Bool
  | .author .state => true
  | .player line => decide (Command.parse line = .ok .help)
  | _ => false

/-- Whether the request is to run a script. -/
def runs : Request → Bool
  | .author (.run _) => true
  | _ => false

/-- Whether the request is to describe a location past the engine. -/
def visits : Request → Bool
  | .begin | .author (.goTo _) => true
  | _ => false

end Request

/-- A turn of a session: what was asked, how it ended, and the app before and after it. -/
structure Turn where
  before : App
  request : Request
  outcome : Except AppFault Reply
  after : App

namespace Turn

/-- Whether the turn shows a menu: it is answered, the answer is no refusal, and the turn does not only
inform. -/
def showsMenu (turn : Turn) : Bool :=
  match turn.outcome with
  | .ok reply => decide (reply.status ≠ .invalid) && !turn.request.informs
  | .error _ => false

/-- Whether the turn describes a location past the engine while the player is among the items. -/
def strays (turn : Turn) : Bool :=
  turn.request.visits && match turn.before.engine.mode with
    | .explore _ => false
    | .inventory _ | .combine _ => true

end Turn

/-- What the app does in a turn. -/
def turn (app : App) (line? : Option String) : Turn :=
  let action := match line? with
    | none => Act.play Play.intro
    | some line => Act.handleLine line
  let (outcome, after) := action.run.run app
  { before := app, request := app.request line?, outcome, after }

/-- The turns of a session. A turn that fails does not end it. -/
def turns (app : App) : List (Option String) → List Turn
  | [] => []
  | line? :: rest =>
    let turn := app.turn line?
    turn :: turn.after.turns rest

end App

namespace Act

variable {app : App} {line : String}

/-- What an app does for a line is what the line asks for. -/
theorem run_handleLine (line : String) (app : App) :
    (handleLine line).run.run app = (app.request (some line)).action.run.run app := by
  unfold handleLine handleNested App.request
  rw [run_get_bind]
  dsimp only
  cases if app.dev then DeveloperCommand.parse? line else none with
  | none => rfl
  | some command => cases command <;> rfl

/-- What the engine does that gets a reply. -/
theorem gives_of_run_play {action : Play Reply} {reply : Reply} {after : App}
    (ran : (play action).run.run app = (.ok reply, after)) :
    Play.Gives action app.engine reply after.engine := by
  rw [run_play] at ran
  obtain ⟨outcome, ended⟩ := Prod.mk.inj ran
  rw [← ended]
  refine Prod.ext ?_ rfl
  cases replied : (action.run.run app.engine).1 with
  | ok value =>
      rw [replied] at outcome
      cases outcome
      rfl
  | error error =>
      rw [replied] at outcome
      cases outcome

end Act

/-! ### What a turn does to the menus -/

/-- A location was described past the engine: its options are shown and remembered, and everything else
that the engine remembers has stayed. -/
structure App.Visits (app : App) (reply : Reply) (after : App) : Prop where
  valid : reply.status ≠ .invalid
  keeps : ∃ world, after.engine = { app.engine with world, options := world.offered }
  message : ∃ opening, reply.message = opening ++ after.engine.menuText (.options after.engine.options)

namespace Act

variable {app after : App} {reply : Reply}

theorem visits_intro (ran : (play Play.intro).run.run app = (.ok reply, after)) :
    app.Visits reply after := by
  obtain ⟨text, shows, rfl⟩ := Play.gives_returning.1 (gives_of_run_play ran)
  obtain ⟨keeps, message⟩ := Play.shows_describeLocation shows
  exact ⟨by simp [Reply.ok], keeps, message⟩

theorem visits_goTo {arguments : List String}
    (ran : (goTo arguments).run.run app = (.ok reply, after)) :
    reply.status = .invalid ∧ after = app ∨ app.Visits reply after := by
  unfold goTo at ran
  split at ran
  next key =>
    rw [run_get_bind] at ran
    split at ran
    next =>
      cases ran
      exact .inl ⟨rfl, rfl⟩
    next location _ =>
      have gives := gives_of_run_play ran
      rw [Play.setFocus, Play.gives_change_bind] at gives
      obtain ⟨_, _, gives⟩ := gives
      obtain ⟨text, shows, rfl⟩ := Play.gives_returning.1 gives
      obtain ⟨⟨world, same⟩, message⟩ := Play.shows_describeLocation shows
      exact .inr ⟨by simp [Reply.ok], ⟨world, same⟩, message⟩
  next =>
    cases ran
    exact .inl ⟨rfl, rfl⟩

/-- A line of the player ends with the menu of the engine; or it is refused, or asks for help, and
changes no menu. -/
theorem menu_of_handleLine {line : String}
    (ran : (play (Play.handleLine line)).run.run app = (.ok reply, after)) :
    ((reply.status = .invalid ∨ Command.parse line = .ok .help) ∧
        after.engine.menu = app.engine.menu) ∨
      (reply.status ≠ .invalid ∧ Command.parse line ≠ .ok .help ∧
        ∃ opening, reply.message = opening ++ after.engine.menuText after.engine.menu) := by
  have gives := gives_of_run_play ran
  unfold Play.handleLine at gives
  cases parsed : Command.parse line with
  | error error =>
      rw [parsed] at gives
      obtain ⟨rfl, same⟩ := Play.gives_pure.1 gives
      exact .inl ⟨.inl rfl, by rw [same]⟩
  | ok command =>
      rw [parsed] at gives
      by_cases help : command = .help
      · subst help
        exact .inl ⟨.inr rfl, by rw [Play.gives_handle_help gives]; rfl⟩
      · rcases (Play.shown_handle gives).message_cases with ⟨plain, same⟩ | ⟨valid, shows⟩
        · exact .inl ⟨.inl (plain.resolve_right help), by rw [same]; rfl⟩
        · exact .inr ⟨valid, by simpa using help, shows⟩

end Act

namespace App

namespace Turn

/-- The answer ends with the text of a menu: the one that the keys are looked up in from then on. If the
turn strays, it ends with the options of the location instead, and the menu is the one before. -/
def Ends (turn : Turn) (reply : Reply) : Prop :=
  (∃ opening, reply.message = opening ++ turn.after.engine.menuText
    (if turn.strays then .options turn.after.engine.options else turn.after.engine.menu)) ∧
  (turn.strays = true → turn.after.engine.menu = turn.before.engine.menu)

variable {turn : Turn} {reply : Reply}

theorem showsMenu_iff (replied : turn.outcome = .ok reply) :
    turn.showsMenu = true ↔ reply.status ≠ .invalid ∧ turn.request.informs = false := by
  unfold showsMenu
  rw [replied]
  simp

theorem replies_of_showsMenu (shows : turn.showsMenu = true) : ∃ reply, turn.outcome = .ok reply := by
  unfold showsMenu at shows
  split at shows
  next reply replied => exact ⟨reply, replied⟩
  next => cases shows

theorem menu_of_strays (strays : turn.strays = true) :
    turn.before.engine.menu = .items turn.before.engine.items := by
  have among := (Bool.and_eq_true_iff.1 strays).2
  unfold Engine.menu
  cases mode : turn.before.engine.mode with
  | explore => simp [mode] at among
  | inventory | combine => rfl

/-- Past the engine the options are shown in every mode, and they are the menu only while exploring. -/
theorem ends_of_visits (asked : turn.request.visits = true)
    (visits : turn.before.Visits reply turn.after) : turn.Ends reply := by
  obtain ⟨_, ⟨world, same⟩, opening, message⟩ := visits
  unfold Ends strays
  rw [asked, Bool.true_and]
  cases mode : turn.before.engine.mode with
  | explore selected? =>
      have menu : turn.after.engine.menu = .options turn.after.engine.options := by
        simp [same, Engine.menu, mode]
      exact ⟨⟨opening, by simpa [menu] using message⟩, by simp⟩
  | inventory selected? | combine selected =>
      exact ⟨⟨opening, message⟩, fun _ => by simp [same, Engine.menu, mode]⟩

/-- The turn ended as what was asked for ends in the app before it. -/
def Ran (turn : Turn) : Prop :=
  turn.request.action.run.run turn.before = (turn.outcome, turn.after)

/-- A turn that gets an answer ends with a menu, if it shows one, and leaves the menu as it is
otherwise. -/
theorem Ran.ends (ran : turn.Ran) (replied : turn.outcome = .ok reply)
    (scriptless : turn.request.runs = false) :
    if turn.showsMenu then turn.Ends reply
    else turn.after.engine.menu = turn.before.engine.menu := by
  have shows_iff := showsMenu_iff replied
  unfold Ran at ran
  rw [replied] at ran
  cases asked : turn.request with
  | begin =>
      rw [asked] at ran shows_iff
      have visits := Act.visits_intro ran
      rw [if_pos (shows_iff.2 ⟨visits.valid, rfl⟩)]
      exact ends_of_visits (by rw [asked]; rfl) visits
  | player line =>
      rw [asked] at ran shows_iff
      have straight : turn.strays = false := by
        unfold strays
        rw [asked]
        rfl
      rcases Act.menu_of_handleLine ran with ⟨plain, same⟩ | ⟨valid, noHelp, opening, message⟩
      · rw [if_neg]
        · exact same
        · rw [shows_iff]
          rintro ⟨valid, noHelp⟩
          exact of_decide_eq_false noHelp (plain.resolve_left valid)
      · rw [if_pos (shows_iff.2 ⟨valid, decide_eq_false noHelp⟩)]
        refine ⟨⟨opening, ?_⟩, by simp [straight]⟩
        rw [straight]
        exact message
  | author command =>
      cases command with
      | run arguments =>
          rw [asked] at scriptless
          cases scriptless
      | state =>
          rw [asked] at ran shows_iff
          have same : turn.before = turn.after := (Prod.mk.inj ran).2
          rw [if_neg, same]
          exact fun shows => absurd (shows_iff.1 shows).2 (by decide)
      | goTo arguments =>
          rw [asked] at ran shows_iff
          rcases Act.visits_goTo ran with ⟨invalid, same⟩ | visits
          · rw [if_neg, same]
            exact fun shows => (shows_iff.1 shows).1 invalid
          · rw [if_pos (shows_iff.2 ⟨visits.valid, rfl⟩)]
            exact ends_of_visits (by rw [asked]; rfl) visits

end Turn

theorem ran_turn (app : App) (line? : Option String) : (app.turn line?).Ran := by
  cases line? with
  | none => rfl
  | some line => exact (Act.run_handleLine line app).symm

/-- As long as no menu is shown, the menu stays. The induction is on the turns. -/
theorem menu_of_silent {app : App} {lines : List (Option String)} {later rest : List Turn}
    (history : app.turns lines = later ++ rest)
    (silent : ∀ turn ∈ later, turn.showsMenu = false)
    (replies : ∀ turn ∈ later, turn.outcome.isOk = true)
    (scriptless : ∀ turn ∈ later, turn.request.runs = false) :
    ∀ now ∈ later, now.after.engine.menu = app.engine.menu := by
  induction later generalizing app lines with
  | nil => simp
  | cons turn later ih =>
      cases lines with
      | nil => cases history
      | cons line? lines =>
          obtain ⟨rfl, others⟩ := List.cons.inj history
          obtain ⟨silent_here, silent⟩ := List.forall_mem_cons.1 silent
          obtain ⟨replies_here, replies⟩ := List.forall_mem_cons.1 replies
          obtain ⟨scriptless_here, scriptless⟩ := List.forall_mem_cons.1 scriptless
          cases replied : (app.turn line?).outcome with
          | error fault =>
              rw [replied] at replies_here
              cases replies_here
          | ok reply =>
              have here := (ran_turn app line?).ends replied scriptless_here
              rw [if_neg (by simp [silent_here])] at here
              refine List.forall_mem_cons.2 ⟨here, fun now member => ?_⟩
              exact (ih others silent replies scriptless now member).trans here

/-- Every turn is one of some app, which goes on with the turns after it. -/
theorem turns_from {app : App} {lines : List (Option String)} {turn : Turn}
    {earlier later : List Turn} (history : app.turns lines = earlier ++ turn :: later) :
    ∃ (before : App) (line? : Option String) (rest : List (Option String)),
      before.turn line? = turn ∧ turn.after.turns rest = later := by
  induction earlier generalizing app lines with
  | nil =>
      cases lines with
      | nil => cases history
      | cons line? rest =>
          obtain ⟨rfl, others⟩ := List.cons.inj history
          exact ⟨app, line?, rest, rfl, others⟩
  | cons first earlier ih =>
      cases lines with
      | nil => cases history
      | cons line? rest => exact ih (List.cons.inj history).2

/-- The app looks a key up in the menu of its engine. -/
theorem run_key {app : App} {line : String} {key : Char}
    (asked : app.request (some line) = .player line) (parsed : Command.parse line = .ok (.choose key)) :
    (Act.handleLine line).run.run app =
      (Act.play (app.engine.answer key)).run.run { app with engine := app.engine.received } := by
  rw [Act.run_handleLine, asked, Request.action, Act.run_play, Act.run_play, Engine.run_choose parsed]

/-- Keys and menus. Take a turn that showed a menu, and any moment from then on until the next menu is
shown, as long as all turns get answers and no script is run. The answer of that turn ends with the
menu in which the app looks up the keys that the player chooses: the options while exploring, and the
items otherwise. It is not so if that turn described a location for the author, or began the story
again, while the player was among the items. Then the answer ends with the options of that location,
and the keys go on being looked up in the items that were the menu before. -/
theorem keys_act_on_menu {app : App} {lines : List (Option String)} {shown : Turn}
    {earlier later rest : List Turn} (history : app.turns lines = earlier ++ shown :: (later ++ rest))
    (shows : shown.showsMenu = true) (silent : ∀ turn ∈ later, turn.showsMenu = false)
    (replies : ∀ turn ∈ later, turn.outcome.isOk = true)
    (scriptless : ∀ turn ∈ shown :: later, turn.request.runs = false) :
    ∀ now ∈ shown :: later,
      (∃ reply opening, shown.outcome = .ok reply ∧
        (shown.strays = false →
          reply.message = opening ++ shown.after.engine.menuText now.after.engine.menu) ∧
        (shown.strays = true →
          reply.message = opening ++ shown.after.engine.menuText
            (.options shown.after.engine.options) ∧
          now.after.engine.menu = .items shown.before.engine.items)) ∧
      ∀ line key, now.after.request (some line) = .player line →
        Command.parse line = .ok (.choose key) →
        (Act.handleLine line).run.run now.after =
          (Act.play (now.after.engine.answer key)).run.run
            { now.after with engine := now.after.engine.received } := by
  intro now member
  refine ⟨?_, fun line key => run_key⟩
  obtain ⟨before, line?, others, rfl, goes_on⟩ := turns_from history
  obtain ⟨scriptless_here, scriptless⟩ := List.forall_mem_cons.1 scriptless
  -- No menu was shown between the answer and now, so the menu is still the one after the answer.
  have same : now.after.engine.menu = (before.turn line?).after.engine.menu := by
    rcases List.mem_cons.1 member with rfl | member
    · rfl
    · exact menu_of_silent goes_on silent replies scriptless now member
  obtain ⟨reply, replied⟩ := Turn.replies_of_showsMenu shows
  have ends := (ran_turn before line?).ends replied scriptless_here
  rw [if_pos shows] at ends
  obtain ⟨⟨opening, message⟩, keeps⟩ := ends
  refine ⟨reply, opening, replied, ?_, ?_⟩
  · intro straight
    rw [same, message, straight]
    rfl
  · intro strays
    rw [message, strays, same, keeps strays]
    exact ⟨rfl, Turn.menu_of_strays strays⟩

/-- The dark hall as its author plays it. -/
def authored (world : World) : App where
  title := darkHall.title
  dev := true
  scripts := ⟨Path.parse "scripts", [], []⟩
  engine := Engine.start world usualExitName

/-- In the dark hall: after the lamp was listed and the help text shown, keys are looked up in the list.
After going to the attic they still are, although the options there are shown. -/
theorem keys_act_on_menu_darkHall :
    ∃ world begun listed helped gone, darkHall.build {} = .ok world ∧
      (authored world).turns [none, some "i", some "help", some "/goto attic"] =
        [begun, listed, helped, gone] ∧
      (∃ reply opening, listed.outcome = .ok reply ∧
        reply.message = opening ++ listed.after.engine.menuText helped.after.engine.menu) ∧
      ∃ reply opening, gone.outcome = .ok reply ∧
        reply.message = opening ++ gone.after.engine.menuText (.options gone.after.engine.options) ∧
        gone.after.engine.menu = .items gone.before.engine.items := by
  have checked : (darkHall.build {}).toOption.any (fun world =>
      let begun := (authored world).turn none
      let listed := begun.after.turn (some "i")
      let helped := listed.after.turn (some "help")
      let gone := helped.after.turn (some "/goto attic")
      (listed.showsMenu && !listed.strays && !listed.request.runs) &&
        (!helped.showsMenu && helped.outcome.isOk && !helped.request.runs) &&
        (gone.showsMenu && gone.strays && !gone.request.runs)) = true := by decide +kernel
  obtain ⟨world, built, checked⟩ := (Option.any_eq_true _ _).1 checked
  refine ⟨world, _, _, _, _, eq_ok_of_toOption built, rfl, ?_⟩
  simp only [Bool.and_eq_true, Bool.not_eq_true'] at checked
  obtain ⟨⟨⟨⟨lists, straight⟩, noScript⟩, ⟨silent, answered⟩, either⟩, ⟨goes, strays⟩, neither⟩ :=
    checked
  let lines := [none, some "i", some "help", some "/goto attic"]
  have first := keys_act_on_menu
    (show (authored world).turns lines = [_] ++ _ :: ([_] ++ [_]) from rfl) lists
    (List.forall_mem_singleton.2 silent) (List.forall_mem_singleton.2 answered)
    (by simp [noScript, either]) _ (List.mem_cons_of_mem _ (List.mem_singleton_self _))
  have last := keys_act_on_menu
    (show (authored world).turns lines = [_, _, _] ++ _ :: ([] ++ []) from rfl) goes
    (List.forall_mem_nil _) (List.forall_mem_nil _)
    (List.forall_mem_singleton.2 neither) _ (List.mem_singleton_self _)
  obtain ⟨reply, opening, replied, follows, _⟩ := first.1
  obtain ⟨other, before, answered, _, stays⟩ := last.1
  exact ⟨⟨reply, opening, replied, follows straight⟩, other, before, answered, stays strays⟩

end App

end Narrative
