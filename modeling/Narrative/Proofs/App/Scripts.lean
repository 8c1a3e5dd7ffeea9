/-
Module: Narrative.Proofs.App.Scripts
Purpose: When running a script comes to an end, and how. A line gets a reply or ends with a story error,
  unless a script that it runs cannot be found or read, or scripts run inside one another too deep. They
  do not where no script runs itself; a script that runs itself first thing never ends.
Main exports: Act.Ends, Act.Accounts, Act.accounts_handleNested, Act.Settles,
  Act.settles_handleNested, Act.run_handleNested_of_begins, App.Unfolds, App.scripts_unfold
-/
import Narrative.Proofs.App.Operations
import Narrative.Proofs.Script

namespace Narrative

namespace Act

variable {α β : Type} {plan : World} {scripts : Scripts} {app : App} {line : String}

/-! ### How lines end -/

/-- How an action of an app ends: its engine follows the plan, its scripts are as they were, a story
error is explained, and somebody is to blame for a fault about scripts. -/
structure Ends (plan : World) (scripts : Scripts) (Blamed : ScriptFault → Prop)
    (outcome : Except AppFault α) (after : App) : Prop where
  follows : after.engine.Follows plan
  scripts_eq : after.scripts = scripts
  explains : ∀ error, outcome = .error (.story error) →
    World.Explains plan after.engine.world error
  blames : ∀ fault, outcome = .error (.script fault) → Blamed fault

/-- From every app that follows the plan and has the scripts, the action ends as it should. -/
def Accounts (plan : World) (scripts : Scripts) (Blamed : ScriptFault → Prop) (action : Act α) : Prop :=
  ∀ app : App, app.engine.Follows plan → app.scripts = scripts →
    Ends plan scripts Blamed (action.run.run app).1 (action.run.run app).2

namespace Accounts

variable {Blamed Other : ScriptFault → Prop}

theorem pure (value : α) : Accounts plan scripts Blamed (pure value) := by
  intro app follows same
  refine ⟨follows, same, ?_, ?_⟩
  · rintro error ⟨⟩
  · rintro fault ⟨⟩

theorem bind {first : Act α} {next : α → Act β} (accounts : Accounts plan scripts Blamed first)
    (continues : ∀ value, Accounts plan scripts Blamed (next value)) :
    Accounts plan scripts Blamed (first >>= next) := by
  intro app follows same
  have ends := accounts app follows same
  rw [run_run_bind]
  split
  next value after ended =>
    rw [ended] at ends
    exact continues value after ends.follows ends.scripts_eq
  next fault after ended =>
    rw [ended] at ends
    refine ⟨ends.follows, ends.scripts_eq, ?_, ?_⟩
    · rintro error ⟨⟩
      exact ends.explains error rfl
    · rintro other ⟨⟩
      exact ends.blames other rfl

/-- What is asked of the app is what it is; its scripts are known. -/
theorem get_bind {next : App → Act β}
    (continues : ∀ app : App, app.engine.Follows plan → app.scripts = scripts →
      Accounts plan scripts Blamed (next app)) :
    Accounts plan scripts Blamed (get >>= next) := fun app follows same =>
  continues app follows same app follows same

theorem play {action : Play α} {Gives : α → Prop} (safe : Play.Safe plan Gives action) :
    Accounts plan scripts Blamed (play action) := by
  intro app follows same
  have ends := safe app.engine follows
  rw [run_play]
  refine ⟨ends.follows, same, ?_, ?_⟩
  · intro error failed
    obtain ⟨cause, ended, same⟩ := mapError_eq_error.1 failed
    cases same
    exact ends.explains error ended
  · intro fault failed
    obtain ⟨_, _, other⟩ := mapError_eq_error.1 failed
    cases other

theorem ofScript {outcome : Except ScriptFault α}
    (blames : ∀ fault, outcome = .error fault → Blamed fault) :
    Accounts plan scripts Blamed (ofScript outcome) := by
  intro app follows same
  cases outcome with
  | ok value => exact Accounts.pure value app follows same
  | error fault =>
      refine ⟨follows, same, ?_, ?_⟩
      · rintro error ⟨⟩
      · rintro other ⟨⟩
        exact blames fault rfl

theorem ofScript_bind {outcome : Except ScriptFault α} {next : α → Act β}
    (blames : ∀ fault, outcome = .error fault → Blamed fault)
    (continues : ∀ value, outcome = .ok value → Accounts plan scripts Blamed (next value)) :
    Accounts plan scripts Blamed (Act.ofScript outcome >>= next) := by
  cases outcome with
  | ok value => exact continues value rfl
  | error fault =>
      have stops : Accounts plan scripts Blamed (Act.ofScript (.error fault : Except ScriptFault β)) :=
        .ofScript fun other failed => by
          cases failed
          exact blames fault rfl
      exact stops

theorem printLine (line : String) : Accounts plan scripts Blamed (printLine line) := by
  intro app follows same
  refine ⟨follows, same, ?_, ?_⟩
  · rintro error ⟨⟩
  · rintro fault ⟨⟩

theorem mono {action : Act α} (accounts : Accounts plan scripts Blamed action)
    (wider : ∀ fault, Blamed fault → Other fault) : Accounts plan scripts Other action := by
  intro app follows same
  have ends := accounts app follows same
  exact ⟨ends.follows, ends.scripts_eq, ends.explains, fun fault failed =>
    wider fault (ends.blames fault failed)⟩

theorem runLines {handle : String → Act Reply} (lines : List String)
    (each : ∀ line ∈ lines, Accounts plan scripts Blamed (handle line)) :
    Accounts plan scripts Blamed (runLines handle lines) := by
  induction lines with
  | nil => exact .pure _
  | cons line rest ih =>
      obtain ⟨first, others⟩ := List.forall_mem_cons.1 each
      refine first.bind fun reply => ?_
      split
      · exact .pure _
      · exact (ih others).bind fun shown => .pure _

end Accounts

/-- Who is to blame for a fault when a line is handled: a line that it comes to and that runs no script,
or scripts that run inside one another as deep as they may. -/
def Blamed (scripts : Scripts) (limit : Nat) (line : String) (fault : ScriptFault) : Prop :=
  (∃ texts last, scripts.Descends texts line last ∧ scripts.Fails last fault) ∨
    fault = .tooDeep ∧ ∃ texts last, texts.length = limit ∧ scripts.Descends texts line last

theorem Blamed.into {limit : Nat} {text : List Char} {inner : String} {fault : ScriptFault}
    (opens : scripts.Opens line text) (among : inner ∈ scriptLines text)
    (blamed : Blamed scripts limit inner fault) : Blamed scripts (limit + 1) line fault := by
  obtain ⟨texts, last, descends, fails⟩ | ⟨deep, texts, last, length, descends⟩ := blamed
  · exact .inl ⟨text :: texts, last, .into opens among descends, fails⟩
  · exact .inr ⟨deep, text :: texts, last, by rw [List.length_cons, length], .into opens among descends⟩

theorem accounts_runScript {limit : Nat} {arguments : List String}
    (command : DeveloperCommand.parse? line = some (.run arguments)) {handle : String → Act Reply}
    (each : ∀ inner, Accounts plan scripts (Blamed scripts limit inner) (handle inner)) :
    Accounts plan scripts (Blamed scripts (limit + 1) line) (runScript handle arguments) := by
  unfold runScript
  split
  next name =>
    apply Accounts.get_bind
    rintro app _ rfl
    refine Accounts.ofScript_bind ?_ fun file? located => ?_
    · intro fault unplaced
      exact .inl ⟨[], line, .here line, name, command, .inl unplaced⟩
    split
    next => exact .pure _
    next file =>
      refine (Accounts.printLine _).bind fun _ => Accounts.ofScript_bind ?_ fun text? read => ?_
      · intro fault unread
        exact .inl ⟨[], line, .here line, name, command, .inr ⟨file, located, unread⟩⟩
      split
      next => exact .pure _
      next text =>
        have opens : app.scripts.Opens line text := ⟨name, file, command, located, read⟩
        refine (Accounts.runLines _ fun inner among => ?_).bind fun shown => .pure _
        exact (each inner).mono fun fault blamed => blamed.into opens among
  next => exact .pure _

section

variable (well : plan.WellBuilt)

include well

theorem accounts_goTo {Blamed : ScriptFault → Prop} (arguments : List String) :
    Accounts plan scripts Blamed (goTo arguments) := by
  unfold goTo
  split
  next key =>
    apply Accounts.get_bind
    intro app follows _
    split
    next => exact .pure _
    next location found =>
      have located : plan.IsLocation location := by
        rw [← follows.world.plan_eq, World.isLocation_plan]
        exact World.isLocation_of_resolveLocation? found
      exact .play (safe_visit well located)
  next => exact .pure _

/-- The induction is on how many scripts may still run inside one another. -/
theorem accounts_handleNested (limit : Nat) (line : String) :
    Accounts plan scripts (Blamed scripts limit line) (handleNested limit line) := by
  induction limit generalizing line with
  | zero =>
      unfold handleNested
      apply Accounts.get_bind
      intro app _ _
      split
      · exact .play (Play.safe_handleLine well line)
      · exact accounts_goTo well _
      · exact .get_bind fun _ _ _ => .pure _
      next =>
        have stops : Accounts plan scripts (Blamed scripts 0 line)
            (ofScript (.error .tooDeep : Except ScriptFault Reply)) :=
          .ofScript fun fault failed => by
            cases failed
            exact .inr ⟨rfl, [], line, rfl, .here line⟩
        exact stops
  | succ limit ih =>
      unfold handleNested
      apply Accounts.get_bind
      intro app _ _
      split
      · exact .play (Play.safe_handleLine well line)
      · exact accounts_goTo well _
      · exact .get_bind fun _ _ _ => .pure _
      next asked =>
        refine accounts_runScript ?_ ih
        split at asked
        · exact asked
        · cases asked

end

/-! ### Lines that may run more scripts inside one another -/

/-- The other action does what the one does, as long as that does not end because scripts run too deep. -/
def Settles (action deeper : Act α) : Prop :=
  ∀ app : App, (action.run.run app).1 ≠ .error (.script .tooDeep) →
    deeper.run.run app = action.run.run app

namespace Settles

theorem refl (action : Act α) : Settles action action := fun _ _ => rfl

theorem trans {first second third : Act α} (settles : Settles first second)
    (continues : Settles second third) : Settles first third := by
  intro app shallow
  have same := settles app shallow
  rw [continues app (same ▸ shallow), same]

theorem bind {first deeper : Act α} {next further : α → Act β} (settles : Settles first deeper)
    (continues : ∀ value, Settles (next value) (further value)) :
    Settles (first >>= next) (deeper >>= further) := by
  intro app shallow
  rw [run_run_bind] at shallow
  rw [run_run_bind, run_run_bind]
  rcases ended : first.run.run app with ⟨outcome, after⟩
  rw [ended] at shallow
  cases outcome with
  | error fault =>
      have same := settles app (by rw [ended]; simpa using shallow)
      rw [same, ended]
  | ok value =>
      have same := settles app (by rw [ended]; simp)
      rw [same, ended]
      exact continues value after shallow

end Settles

theorem settles_runLines {handle deeper : String → Act Reply}
    (each : ∀ line, Settles (handle line) (deeper line)) (lines : List String) :
    Settles (runLines handle lines) (runLines deeper lines) := by
  induction lines with
  | nil => exact .refl _
  | cons line rest ih =>
      refine (each line).bind fun reply => ?_
      split
      · exact .refl _
      · exact ih.bind fun shown => .refl _

theorem settles_runScript {handle deeper : String → Act Reply}
    (each : ∀ line, Settles (handle line) (deeper line)) (arguments : List String) :
    Settles (runScript handle arguments) (runScript deeper arguments) := by
  unfold runScript
  split
  next name =>
    refine (Settles.refl _).bind fun app => (Settles.refl _).bind fun file? => ?_
    split
    next => exact .refl _
    next file =>
      refine (Settles.refl _).bind fun _ => (Settles.refl _).bind fun text? => ?_
      split
      next => exact .refl _
      next text => exact (settles_runLines each _).bind fun shown => .refl _
  next => exact .refl _

theorem settles_handleNested_succ (limit : Nat) (line : String) :
    Settles (handleNested limit line) (handleNested (limit + 1) line) := by
  induction limit generalizing line with
  | zero =>
      unfold handleNested
      refine (Settles.refl _).bind fun app => ?_
      split
      · exact .refl _
      · exact .refl _
      · exact .refl _
      · exact fun app shallow => absurd rfl shallow
  | succ limit ih =>
      unfold handleNested
      refine (Settles.refl _).bind fun app => ?_
      split
      · exact .refl _
      · exact .refl _
      · exact .refl _
      · exact settles_runScript ih _

theorem settles_handleNested {limit deeper : Nat} (less : limit ≤ deeper) (line : String) :
    Settles (handleNested limit line) (handleNested deeper line) := by
  induction less with
  | refl => exact .refl _
  | step _ ih => exact ih.trans (settles_handleNested_succ _ line)

/-! ### Lines that fail, and lines that never end -/

section

variable {text : List Char} {limit : Nat}

theorem run_handleNested_run (dev : app.dev = true) {arguments : List String}
    (command : DeveloperCommand.parse? line = some (.run arguments)) :
    (handleNested (limit + 1) line).run.run app =
      (runScript (handleNested limit) arguments).run.run app := by
  unfold handleNested
  rw [run_get_bind]
  simp only [dev, if_true, command]

theorem run_handleNested_of_fails (dev : app.dev = true) {fault : ScriptFault}
    (fails : app.scripts.Fails line fault) :
    ((handleNested (limit + 1) line).run.run app).1 = .error (.script fault) := by
  obtain ⟨name, command, unplaced | ⟨file, located, unread⟩⟩ := fails
  · rw [run_handleNested_run dev command]
    unfold runScript
    rw [run_get_bind]
    dsimp only
    rw [unplaced]
    rfl
  · rw [run_handleNested_run dev command]
    unfold runScript
    rw [run_get_bind]
    dsimp only
    rw [located]
    change ((ofScript (app.scripts.read file) >>= _ : Act Reply).run.run _).1 = _
    rw [unread]
    rfl

theorem run_handleNested_of_opens (limit : Nat) (dev : app.dev = true)
    (opens : app.scripts.Opens line text) :
    ∃ printed, (handleNested (limit + 1) line).run.run app =
      (do
        let shown ← runLines (handleNested limit) (scriptLines text)
        return Reply.ok (joinLines (shown ++ ["[i]Script completed."])) : Act Reply).run.run
          { app with printed } := by
  obtain ⟨name, file, command, located, read⟩ := opens
  rw [run_handleNested_run dev command]
  unfold runScript
  rw [run_get_bind]
  dsimp only
  rw [located]
  refine ⟨app.printed ++ ("(Running: " ++ file.path.text ++ ")") ++ "\n", ?_⟩
  change (ofScript (app.scripts.read file) >>= _ : Act Reply).run.run _ = _
  rw [read]
  rfl

/-- A script that runs itself first thing comes too deep, however deep it may. The induction is on that. -/
theorem run_handleNested_of_begins (dev : app.dev = true) (opens : app.scripts.Opens line text)
    (round : Relation.TransGen app.scripts.Begins text text) :
    ((handleNested limit line).run.run app).1 = .error (.script .tooDeep) := by
  induction limit generalizing app line text with
  | zero =>
      obtain ⟨name, file, command, _, _⟩ := opens
      unfold handleNested
      rw [run_get_bind]
      simp only [dev, if_true, command]
      rfl
  | succ limit ih =>
      obtain ⟨printed, same⟩ := run_handleNested_of_opens limit dev opens
      obtain ⟨inner, ⟨first, rest, lines, begins⟩, back⟩ := Relation.TransGen.head'_iff.1 round
      have again : Relation.TransGen app.scripts.Begins inner inner :=
        Relation.TransGen.tail' back ⟨first, rest, lines, begins⟩
      have deep : ((handleNested limit first).run.run { app with printed }).1 =
          .error (.script .tooDeep) := ih dev begins again
      rw [same, lines, runLines, run_run_bind, run_run_bind]
      rcases ended : (handleNested limit first).run.run { app with printed } with ⟨outcome, after⟩
      rw [ended] at deep
      cases deep
      rfl

end

end Act

namespace App

/-! ### Whatever line is handled -/

/-- How a line ends if at most so many scripts may run inside one another, and the app after it. -/
def comesOf (app : App) (limit : Nat) (line : String) : Except AppFault Reply × App :=
  (Act.handleNested limit line).run.run app

/-- The line gets a reply or ends with a story error. The one error that is not told to the player is
that a passage was told so often that the number cannot be written. -/
def Answers (app : App) (limit : Nat) (line : String) : Prop :=
  (∃ reply, (app.comesOf limit line).1 = .ok reply) ∨
    ∃ error, (app.comesOf limit line).1 = .error (.story error) ∧
      (error.isTold = true ∨ (app.comesOf limit line).2.engine.world.Overtold)

/-- What comes of a line, and of the lines of the scripts that it runs.

It is answered, or an author typed it and a script is to blame. Where no script runs itself, not even
through others, it makes no difference how many scripts may run inside one another if it is more than
there are files, and they do not run too deep; the line is answered if no line that it comes to fails.
A line that fails ends with its fault. A line that runs a script which runs itself first thing comes too
deep, however many scripts may run. In a folder as it should be a line fails only because the name is
nothing but the root or has a null character, or because the script is a folder or has a name that is
too long; and it does fail if the name is nothing but the root. -/
structure Unfolds (app : App) (line : String) : Prop where
  typed : (Act.handleLine line).run.run app = app.comesOf maxRunning line
  ends : ∀ limit, app.Answers limit line ∨ app.dev = true ∧ ∃ fault,
    (app.comesOf limit line).1 = .error (.script fault) ∧ Act.Blamed app.scripts limit line fault
  finite : ¬ app.scripts.Rounds line → ∀ limit, app.scripts.files.length < limit →
    app.comesOf limit line = app.comesOf (app.scripts.files.length + 1) line ∧
      (app.comesOf limit line).1 ≠ .error (.script .tooDeep)
  regular : ¬ app.scripts.Rounds line →
    (∀ texts last fault, app.scripts.Descends texts line last → ¬ app.scripts.Fails last fault) →
    ∀ limit, app.scripts.files.length < limit → app.Answers limit line
  fails : app.dev = true → ∀ fault, app.scripts.Fails line fault →
    ∀ limit, 0 < limit → (app.comesOf limit line).1 = .error (.script fault)
  endless : app.dev = true → ∀ text, app.scripts.Opens line text →
    Relation.TransGen app.scripts.Begins text text →
    ∀ limit, (app.comesOf limit line).1 = .error (.script .tooDeep)
  causes : app.scripts.WellKept → ∀ fault, app.scripts.Fails line fault →
    ∃ name, DeveloperCommand.parse? line = some (.run [name]) ∧
      ((∃ path, fault = .noName path) ∧ Scripts.IsRoot name ∨
        fault = .nullCharacter ∧ '\x00' ∈ name.toList ∨
        ∃ path, fault = .unreadable path .folder ∨ fault = .unreadable path .nameTooLong)
  roots : app.scripts.WellKept → ∀ name, DeveloperCommand.parse? line = some (.run [name]) →
    Scripts.IsRoot name → ∃ path, app.scripts.Fails line (.noName path)

variable {plan : World} {app : App} {line : String}

theorem answers_or_blamed (well : plan.WellBuilt) (follows : app.engine.Follows plan) (limit : Nat) :
    app.Answers limit line ∨ app.dev = true ∧ ∃ fault,
      (app.comesOf limit line).1 = .error (.script fault) ∧
        Act.Blamed app.scripts limit line fault := by
  have ends := Act.accounts_handleNested well limit line app follows rfl
  cases ended : (app.comesOf limit line).1 with
  | ok reply => exact .inl (.inl ⟨reply, ended⟩)
  | error fault =>
    cases fault with
    | story error =>
        refine .inl (.inr ⟨error, ended, ?_⟩)
        obtain ⟨told, _⟩ | ⟨_, overtold⟩ := ends.explains error ended
        · exact .inl told
        · exact .inr overtold
    | script fault =>
        refine .inr ⟨?_, fault, rfl, ends.blames fault ended⟩
        -- Only what an author types has to do with scripts.
        by_contra player
        have played : app.comesOf limit line = (Act.play (Play.handleLine line)).run.run app := by
          unfold comesOf Act.handleNested
          rw [Act.run_get_bind]
          simp only [player, if_false]
        rw [played, Act.run_play] at ended
        obtain ⟨_, _, other⟩ := mapError_eq_error.1 ended
        cases other

/-- Where no script runs itself, scripts do not run too deep if more may run than there are files. -/
theorem ne_tooDeep (well : plan.WellBuilt) (follows : app.engine.Follows plan)
    (noRound : ¬ app.scripts.Rounds line) {limit : Nat} (more : app.scripts.files.length < limit) :
    (app.comesOf limit line).1 ≠ .error (.script .tooDeep) := by
  intro deep
  have ends := Act.accounts_handleNested well limit line app follows rfl
  obtain ⟨texts, last, _, fails⟩ | ⟨_, texts, last, length, descends⟩ := ends.blames .tooDeep deep
  · exact Scripts.not_fails_tooDeep fails
  · have bounded := Scripts.length_le_of_descends noRound descends
    omega

theorem comesOf_eq (well : plan.WellBuilt) (follows : app.engine.Follows plan)
    (noRound : ¬ app.scripts.Rounds line) {limit : Nat} (more : app.scripts.files.length < limit) :
    app.comesOf limit line = app.comesOf (app.scripts.files.length + 1) line := by
  have shallow := ne_tooDeep well follows noRound (Nat.lt_succ_self app.scripts.files.length)
  exact Act.settles_handleNested more line app shallow

theorem answers_of_regular (well : plan.WellBuilt) (follows : app.engine.Follows plan)
    (noRound : ¬ app.scripts.Rounds line)
    (none : ∀ texts last fault, app.scripts.Descends texts line last → ¬ app.scripts.Fails last fault)
    {limit : Nat} (more : app.scripts.files.length < limit) : app.Answers limit line := by
  obtain answers | ⟨_, fault, ended, blamed⟩ := answers_or_blamed well follows limit
  · exact answers
  · obtain ⟨texts, last, descends, fails⟩ | ⟨deep, _⟩ := blamed
    · exact absurd fails (none texts last fault descends)
    · exact absurd (deep ▸ ended) (ne_tooDeep well follows noRound more)

/-- Whatever has been done in a session of a world that was built, and whatever line is handled then: it
is known how the line ends. -/
theorem scripts_unfold {model : Model.World} {bus : Bus Handler} {world : World}
    (built : model.build bus = .ok world) {app : App} {exitName : String}
    (starts : app.engine = Engine.start world exitName) {operations : List App.Operation}
    (isIn : ∀ operation ∈ operations, operation.IsIn world.plan) {now : App}
    (reached : app.operateAll operations = now) (line : String) : now.Unfolds line := by
  obtain ⟨well, begun⟩ := Model.World.follows_of_build built
  have leads : app.engine.Follows world.plan := by
    rw [starts]
    exact Engine.follows_start begun exitName
  have follows : now.engine.Follows world.plan := by
    rw [← reached]
    exact (reaches_operateAll well leads isIn).follows
  exact {
    typed := rfl
    ends := answers_or_blamed well follows
    finite := fun noRound limit more =>
      ⟨comesOf_eq well follows noRound more, ne_tooDeep well follows noRound more⟩
    regular := fun noRound none limit more => answers_of_regular well follows noRound none more
    fails := fun dev fault fails limit some => by
      obtain ⟨fewer, rfl⟩ := Nat.exists_eq_succ_of_ne_zero some.ne'
      exact Act.run_handleNested_of_fails dev fails
    endless := fun dev text opens round limit => Act.run_handleNested_of_begins dev opens round
    causes := fun kept fault fails => Scripts.causes_of_fails kept fails
    roots := fun kept name command root => Scripts.fails_of_isRoot kept command root }

/-- A stage with one light. -/
def stage : Model.World where
  start := "stage"
  title := "Stage"
  player := {}
  locations := [{
    name := "Stage", key? := some "stage", tags? := some (.line "lit"), passage := {}
    disableExit := false, descriptors := [], locations := [], interactions := [], combinations := [] }]
  items := []

/-- A tour of the stage, which has a part of its own. -/
def tourText : List Char := "# Look around.\nl\n\n/run part".toList

/-- The part of the tour. -/
def partText : List Char := "/state\n".toList

/-- A script that runs itself. -/
def echoText : List Char := "/run echo".toList

/-- The scripts of the stage. -/
def stageScripts : Scripts where
  folder := Path.parse "stage/scripts"
  base := ["home", "stage", "scripts"]
  files := [(["tour.txt"], tourText.map Char.toNat), (["part.txt"], partText.map Char.toNat),
    (["echo.txt"], echoText.map Char.toNat)]

/-- What the lines of the tour and of its part find. -/
theorem find_tour : stageScripts.find "/run tour" = .ok (some tourText) ∧
    stageScripts.find "/run part" = .ok (some partText) ∧
    stageScripts.find "l" = .ok none ∧ stageScripts.find "/state" = .ok none ∧
    scriptLines tourText = ["l", "/run part"] ∧ scriptLines partText = ["/state"] := by
  decide +kernel

/-- What runs inside the tour is its part. -/
theorem descends_tour {texts : List (List Char)} {last : String}
    (descends : stageScripts.Descends texts "/run tour" last) :
    (∀ text ∈ texts, text = tourText ∨ text = partText) ∧
      last ∈ ["/run tour", "l", "/run part", "/state"] := by
  obtain ⟨tour, part, look, state, tourLines, partLines⟩ := find_tour
  cases descends with
  | here => simp
  | into opens among descends =>
    cases tour.symm.trans (Scripts.opens_iff.1 opens)
    rw [tourLines] at among
    obtain rfl | rfl : _ = "l" ∨ _ = "/run part" := by simpa using among
    · cases descends with
      | here => simp
      | into opens _ _ => cases look.symm.trans (Scripts.opens_iff.1 opens)
    · cases descends with
      | here => simp
      | into opens among descends =>
        cases part.symm.trans (Scripts.opens_iff.1 opens)
        rw [partLines] at among
        obtain rfl : _ = "/state" := by simpa using among
        cases descends with
        | here => simp
        | into opens _ _ => cases state.symm.trans (Scripts.opens_iff.1 opens)

/-- Neither the tour nor its part runs itself. -/
theorem not_rounds_tour : ¬ stageScripts.Rounds "/run tour" := by
  obtain ⟨_, part, look, state, tourLines, partLines⟩ := find_tour
  have ends : ∀ text, ¬ stageScripts.Calls partText text := by
    rintro text ⟨line, among, opens⟩
    rw [partLines] at among
    obtain rfl : line = "/state" := by simpa using among
    cases state.symm.trans (Scripts.opens_iff.1 opens)
  have goesOn : ∀ text, stageScripts.Calls tourText text → text = partText := by
    rintro text ⟨line, among, opens⟩
    rw [tourLines] at among
    obtain rfl | rfl : line = "l" ∨ line = "/run part" := by simpa using among
    · cases look.symm.trans (Scripts.opens_iff.1 opens)
    · cases part.symm.trans (Scripts.opens_iff.1 opens)
      rfl
  have stops : ∀ text, ¬ Relation.TransGen stageScripts.Calls partText text := by
    intro text round
    obtain ⟨next, first, _⟩ := Relation.TransGen.head'_iff.1 round
    exact ends next first
  rintro ⟨texts, last, text, descends, member, round⟩
  obtain rfl | rfl := (descends_tour descends).1 text member
  · obtain ⟨next, first, back⟩ := Relation.TransGen.head'_iff.1 round
    obtain rfl := goesOn next first
    obtain same | ⟨_, first, _⟩ := Relation.ReflTransGen.cases_head back
    · exact absurd same (by decide)
    · exact ends _ first
  · exact stops _ round

/-- On the stage the tour is answered, the echo never ends, and a way to the root is no name. -/
theorem scripts_unfold_stage :
    ∃ (world : World) (now : App), stage.build {} = .ok world ∧ now.scripts = stageScripts ∧
      now.Answers maxRunning "/run tour" ∧
      (∀ limit, (now.comesOf limit "/run echo").1 = .error (.script .tooDeep)) ∧
      ((Act.handleLine "/run /").run.run now).1 = .error (.script (.noName (Path.parse "/"))) := by
  have checked : (stage.build {}).toOption.isSome = true := by decide +kernel
  obtain ⟨world, built⟩ := Option.isSome_iff_exists.1 checked
  let app : App := {
    title := stage.title, dev := true, scripts := stageScripts
    engine := Engine.start world usualExitName }
  let now := app.operateAll [.engine .intro]
  have isIn : ∀ operation ∈ [App.Operation.engine .intro], operation.IsIn world.plan := by
    simp [App.Operation.IsIn, Narrative.Operation.IsIn]
  have starts : app.engine = Engine.start world usualExitName := rfl
  have unfolds : ∀ line, now.Unfolds line :=
    scripts_unfold (eq_ok_of_toOption built) starts isIn rfl
  refine ⟨world, now, eq_ok_of_toOption built, rfl, ?_, ?_, ?_⟩
  · apply (unfolds "/run tour").regular not_rounds_tour
    · intro texts last fault descends fails
      obtain ⟨tour, part, look, state, _⟩ := find_tour
      have failed := Scripts.fails_iff.1 fails
      obtain rfl | rfl | rfl | rfl : last = "/run tour" ∨ last = "l" ∨ last = "/run part" ∨
          last = "/state" := by simpa using (descends_tour descends).2
      · cases tour.symm.trans failed
      · cases look.symm.trans failed
      · cases part.symm.trans failed
      · cases state.symm.trans failed
    · show stageScripts.files.length < maxRunning
      decide
  · have echo : stageScripts.Opens "/run echo" echoText :=
      Scripts.opens_iff.2 (by decide +kernel)
    have begins : stageScripts.Begins echoText echoText :=
      ⟨"/run echo", [], by decide +kernel, echo⟩
    exact (unfolds "/run echo").endless rfl echoText echo (.single begins)
  · have root : stageScripts.Fails "/run /" (.noName (Path.parse "/")) :=
      Scripts.fails_iff.2 (by decide +kernel)
    rw [(unfolds "/run /").typed]
    exact (unfolds "/run /").fails rfl _ root _ (by decide)

end App

end Narrative
