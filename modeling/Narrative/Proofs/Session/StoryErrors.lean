/-
Module: Narrative.Proofs.Session.StoryErrors
Purpose: What becomes of a story that cannot be evaluated. On the console and on the web page the
  player is told of it, and the story goes on. Only at the first description of a story does nobody
  catch it: there it ends the session, or it takes the place of the page.
Main exports: Spares, Talk.spares_converse, Talk.error_begin_iff, Talk.run_converse_of_failed,
  Serve.error_textFor_iff, storyErrors_told
-/
import Narrative.Page
import Narrative.Proofs.App.Operations

namespace Narrative

/-! ### Actions that no story error ends -/

/-- Whatever ends the action, it is no story error that players are told of. -/
def Spares {σ α : Type} (action : ExceptT TalkFault (StateM σ) α) : Prop :=
  ∀ state error, (action.run.run state).1 = .error (.app (.story error)) → error.isTold = false

namespace Spares

variable {σ α β : Type}

/-- What always has a value is ended by nothing. -/
theorem of_ok {action : ExceptT TalkFault (StateM σ) α} (value : σ → α)
    (ends : ∀ state, (action.run.run state).1 = .ok (value state)) : Spares action := by
  intro state error failed
  rw [ends] at failed
  cases failed

theorem ne {action : ExceptT TalkFault (StateM σ) α} (spares : Spares action) {state : σ}
    {error : EvaluationError} (told : error.isTold = true) :
    (action.run.run state).1 ≠ .error (.app (.story error)) := by
  intro failed
  rw [spares state error failed] at told
  cases told

theorem pure (value : α) : Spares (pure value : ExceptT TalkFault (StateM σ) α) :=
  of_ok (fun _ => value) fun _ => rfl

theorem get : Spares (get : ExceptT TalkFault (StateM σ) σ) := of_ok id fun _ => rfl

theorem set (state : σ) : Spares (set state : ExceptT TalkFault (StateM σ) PUnit) :=
  of_ok (fun _ => ()) fun _ => rfl

theorem throw {fault : TalkFault}
    (other : ∀ error, fault = .app (.story error) → error.isTold = false) :
    Spares (throw fault : ExceptT TalkFault (StateM σ) α) := by
  intro state error failed
  exact other error (Except.error.inj failed)

theorem bind {first : ExceptT TalkFault (StateM σ) α} {next : α → ExceptT TalkFault (StateM σ) β}
    (spares : Spares first) (continues : ∀ value, Spares (next value)) : Spares (first >>= next) := by
  intro state error failed
  rw [run_run_bind] at failed
  split at failed
  next value after _ => exact continues value after error failed
  next fault after ended =>
    apply spares state error
    rw [ended]
    exact congrArg Except.error (Except.error.inj failed)

end Spares

/-- Where the engine acts, a reply is shown, and a fault is thrown, the story error of the engine ends
the action, and no other does. -/
theorem error_bind_iff {σ β : Type} {first : ExceptT TalkFault (StateM σ) (Except AppFault Reply)}
    {next : Except AppFault Reply → ExceptT TalkFault (StateM σ) β} {state after : σ}
    {outcome : Except EvaluationError Reply} {error : EvaluationError}
    (acts : first.run.run state = (.ok (outcome.mapError .story), after))
    (shows : ∀ reply, Spares (next (.ok reply)))
    (throws : ∀ fault, next (.error fault) = throw (.app fault)) (told : error.isTold = true) :
    ((first >>= next).run.run state).1 = .error (.app (.story error)) ↔ outcome = .error error := by
  rw [run_run_bind, acts]
  cases outcome with
  | ok reply =>
      constructor
      · intro failed
        exact absurd failed ((shows reply).ne told)
      · intro failed
        cases failed
  | error other =>
      show ((next (.error (.story other))).run.run after).1 = _ ↔ _
      rw [throws]
      constructor
      · rintro ⟨⟩
        rfl
      · rintro ⟨⟩
        rfl

namespace Talk

/-! ### On the console -/

theorem spares_print (text : String) : Spares (print text) := .of_ok (fun _ => ()) fun _ => rfl

/-- To let the app act is to act on the app of the session, and to print what it prints. -/
theorem run_act {α : Type} (action : Act α) (session : Session) :
    (act action).run.run session =
      (.ok (action.run.run session.app).1,
        { session with
          app := { (action.run.run session.app).2 with printed := "" }
          strokes := session.strokes ++ [.print (action.run.run session.app).2.printed.toList] }) :=
  rfl

theorem spares_act {α : Type} (action : Act α) : Spares (act action) :=
  .of_ok (fun session => (action.run.run session.app).1) fun _ => rfl

/-- Text that is shown fails at most for its markup. -/
theorem spares_write (text : String) : Spares (write text) := by
  apply Spares.get.bind
  intro session
  apply (Spares.set _).bind
  intro _
  split
  · exact .pure _
  · apply Spares.throw
    rintro error ⟨⟩

theorem spares_answer (line : String) : Spares (answer line) := by
  unfold answer
  dsimp only
  split
  · exact .pure _
  split
  · exact .pure _
  · apply (spares_act _).bind
    intro outcome
    split
    next reply =>
      apply (spares_print _).bind
      intro _
      apply (spares_write _).bind
      intro _
      exact .pure _
    next error =>
      split
      next told =>
        apply (spares_print _).bind
        intro _
        exact .pure _
      next untold =>
        apply Spares.throw
        rintro other ⟨⟩
        simpa using untold
    next fault other =>
      apply Spares.throw
      rintro error ⟨⟩
      cases other error rfl

/-- No line that the player types ends a session by a story error. -/
theorem spares_converse (lines : List String) : Spares (converse lines) := by
  induction lines with
  | nil => exact spares_print _
  | cons line rest ih =>
      apply (spares_print _).bind
      intro _
      apply (spares_answer line).bind
      intro goesOn
      split
      · exact ih
      · exact .pure _

/-- The beginning of a session fails just as the first description does. -/
theorem error_begin_iff {session : Session} {error : EvaluationError} (told : error.isTold = true) :
    (begin.run.run session).1 = .error (.app (.story error)) ↔
      (Play.intro.run.run session.app.engine).1 = .error error := by
  have acts : (act (Act.play Play.intro)).run.run session = (.ok _, _) := run_act _ session
  rw [Act.run_play] at acts
  exact error_bind_iff acts (fun _ => spares_write _) (fun _ => rfl) told

/-- The whole session ends by a story error only if its beginning does. -/
theorem error_whole_iff {session : Session} {lines : List String} {error : EvaluationError}
    (told : error.isTold = true) :
    ((whole lines).run.run session).1 = .error (.app (.story error)) ↔
      (Play.intro.run.run session.app.engine).1 = .error error := by
  rw [← error_begin_iff told]
  unfold whole
  rw [run_run_bind]
  split
  next _ after began =>
    rw [began]
    constructor
    · intro failed
      exact absurd failed ((spares_converse lines).ne told)
    · intro failed
      cases failed
  next fault after ended =>
    rw [ended]

end Talk

/-- The command in a line of the player, unless it is empty or a farewell. -/
def commandOf? (line : String) : Option String :=
  let command := String.ofList (Text.trim line.toList)
  if command.isEmpty || Text.lower command ∈ ["quit", "exit"] then none else some command

/-- The session after a command that failed: what the app had printed until then is on the console, and
after it the error. -/
def Session.afterStoryError (session : Session) (command : String) (error : EvaluationError) :
    Session :=
  let app := ((Act.handleLine command).run.run session.app).2
  { session with
    app := { app with printed := "" }
    strokes := session.strokes ++ [.print "> ".toList, .print app.printed.toList,
      .print ("STORY ERROR: " ++ error.message ++ "\n").toList] }

namespace Talk

theorem run_answer_of_failed {session : Session} {line command : String} {error : EvaluationError}
    (told : error.isTold = true) (typed : commandOf? line = some command)
    (failed : ((Act.handleLine command).run.run session.app).1 = .error (.story error)) :
    (answer line).run.run session =
      (.ok true,
        { session with
          app := { ((Act.handleLine command).run.run session.app).2 with printed := "" }
          strokes := session.strokes ++
            [.print ((Act.handleLine command).run.run session.app).2.printed.toList] ++
            [.print ("STORY ERROR: " ++ error.message ++ "\n").toList] }) := by
  unfold commandOf? at typed
  dsimp only at typed
  split at typed
  next => cases typed
  next spoken =>
    cases typed
    rw [Bool.or_eq_true, not_or, Bool.not_eq_true, decide_eq_true_eq] at spoken
    unfold answer farewells
    dsimp only
    rw [if_neg (by simp [spoken.1]), if_neg spoken.2, run_run_bind, run_act, failed]
    dsimp only
    rw [if_pos told]
    rfl

/-- After a command that failed the player is told of the error, and is asked for the next line. -/
theorem run_converse_of_failed {session : Session} {line command : String} {rest : List String}
    {error : EvaluationError} (told : error.isTold = true) (typed : commandOf? line = some command)
    (failed : ((Act.handleLine command).run.run session.app).1 = .error (.story error)) :
    (converse (line :: rest)).run.run session =
      (converse rest).run.run (session.afterStoryError command error) := by
  have answered := @run_answer_of_failed
    { session with strokes := session.strokes ++ [.print "> ".toList] } line command error told
    typed failed
  have prompted : (print prompt).run.run session =
      (.ok (), { session with strokes := session.strokes ++ [.print "> ".toList] }) := rfl
  rw [converse, run_run_bind, prompted]
  dsimp only
  rw [run_run_bind, answered]
  simp [Session.afterStoryError]

end Talk

section

variable {words : List String} {load : Path → Except LoadError Model.World}
  {scripts : Path → Scripts} {picks : List Int} {lines : List String}

/-- A run in which an app is made ends as the whole session does. -/
theorem ending_transcript_of_made {options : Options} {app : App}
    (parsed : Options.parse words = .ok options)
    (made : App.ofLoaded options.world options.dev (scripts options.world) (load options.world) =
      .ok app) :
    (transcript words load scripts picks lines).ending =
      match ((Talk.whole lines).run.run (Session.start options app picks)).1 with
      | .ok _ => .done
      | .error fault => .talk fault := by
  unfold transcript
  rw [parsed]
  dsimp only
  rw [made]
  rfl

/-- A run of the program ends by a story error exactly if the first description of its story fails. -/
theorem ending_transcript_iff {error : EvaluationError} (told : error.isTold = true) :
    (transcript words load scripts picks lines).ending = .talk (.app (.story error)) ↔
      ∃ options app, Options.parse words = .ok options ∧
        App.ofLoaded options.world options.dev (scripts options.world) (load options.world) = .ok app ∧
        (Play.intro.run.run app.engine).1 = .error error := by
  constructor
  · intro ended
    cases parsed : Options.parse words with
    | error refusal =>
        rw [transcript, parsed] at ended
        cases ended
    | ok options =>
        cases made : App.ofLoaded options.world options.dev (scripts options.world)
            (load options.world) with
        | error fault =>
            rw [transcript, parsed] at ended
            dsimp only at ended
            rw [made] at ended
            dsimp only at ended
            split at ended <;> cases ended
        | ok app =>
            rw [ending_transcript_of_made parsed made] at ended
            split at ended
            next => cases ended
            next fault whole =>
              cases ended
              exact ⟨options, app, rfl, made, (Talk.error_whole_iff told).1 whole⟩
  · rintro ⟨options, app, parsed, made, failed⟩
    have whole : ((Talk.whole lines).run.run (Session.start options app picks)).1 =
        .error (.app (.story error)) := (Talk.error_whole_iff told).2 failed
    rw [ending_transcript_of_made parsed made, whole]

end

/-! ### On the web page -/

/-- The engine in the mode in which locations are explored. -/
def Engine.exploring (engine : Engine) : Engine :=
  { engine with mode := .explore engine.mode.selected? }

/-- The website after a command that failed: the error is the text that is shown. -/
def Website.afterStoryError (site : Website) (command : String) (error : EvaluationError) : Website :=
  { site with
    app := ((Act.handleLine command).run.run site.app).2
    text? := some ("> " ++ command ++ "\n\n" ++ ("STORY ERROR: " ++ error.message)) }

namespace Serve

theorem spares_expand (text : String) : Spares (expand text) := by
  apply Spares.get.bind
  intro site
  apply (Spares.set _).bind
  intro _
  split
  · exact .pure _
  · apply Spares.throw
    rintro error ⟨⟩

theorem spares_remember (text : String) : Spares (remember text) := .of_ok (fun _ => ()) fun _ => rfl

/-- To let the app act is to act on the app of the website. -/
theorem run_act {α : Type} (action : Act α) (site : Website) :
    (act action).run.run site =
      (.ok (action.run.run site.app).1, { site with app := (action.run.run site.app).2 }) := rfl

theorem spares_answerText (command : String) : Spares (answerText command) := by
  have acts : Spares (act (Act.handleLine command)) :=
    .of_ok (fun site => ((Act.handleLine command).run.run site.app).1) fun _ => rfl
  apply acts.bind
  intro outcome
  split
  next reply => exact spares_expand _
  next error =>
    split
    next told => exact .pure _
    next untold =>
      apply Spares.throw
      rintro other ⟨⟩
      simpa using untold
  next fault other =>
    apply Spares.throw
    rintro error ⟨⟩
    cases other error rfl

/-- The first text fails just as the first description does. -/
theorem error_introText_iff {site : Website} {error : EvaluationError} (told : error.isTold = true) :
    (introText.run.run site).1 = .error (.app (.story error)) ↔
      (Play.intro.run.run site.app.engine.exploring).1 = .error error := by
  have acts : (act (Act.play (do
      Play.setMode (.explore (← get).mode.selected?)
      Play.intro))).run.run site = (.ok _, _) := run_act _ site
  rw [Act.run_play] at acts
  exact error_bind_iff acts (fun _ => spares_expand _) (fun _ => rfl) told

/-- A request ends by a story error exactly if it asks for the page, no text was shown yet, and the
first description of the story fails. -/
theorem error_textFor_iff {site : Website} {command? : Option String} {error : EvaluationError}
    (told : error.isTold = true) :
    ((textFor command?).run.run site).1 = .error (.app (.story error)) ↔
      command? = none ∧ site.text? = none ∧
        (Play.intro.run.run site.app.engine.exploring).1 = .error error := by
  cases command? with
  | some command =>
      have spares : Spares (textFor (some command)) := by
        apply Spares.get.bind
        intro site
        apply (spares_answerText command).bind
        intro text
        apply (spares_remember _).bind
        intro _
        exact .pure _
      constructor
      · intro failed
        exact absurd failed (spares.ne told)
      · rintro ⟨none, _⟩
        cases none
  | none =>
      have asked : (get : Serve Website).run.run site = (.ok site, site) := rfl
      unfold textFor
      rw [run_run_bind, asked]
      dsimp only
      cases shown : site.text? with
      | some text =>
          constructor
          · intro failed
            cases failed
          · rintro ⟨_, none, _⟩
            cases none
      | none =>
          have remembers (text : String) : Spares (do
              remember text
              return text) := by
            apply (spares_remember text).bind
            intro _
            exact .pure _
          simp only [true_and]
          rw [← error_introText_iff told, run_run_bind]
          split
          next text after ended =>
            rw [ended]
            constructor
            · intro failed
              exact absurd failed ((remembers text).ne told)
            · intro failed
              cases failed
          next fault after ended =>
            rw [ended]

theorem run_answerText_of_failed {site : Website} {command : String} {error : EvaluationError}
    (told : error.isTold = true)
    (failed : ((Act.handleLine command).run.run site.app).1 = .error (.story error)) :
    (answerText command).run.run site =
      (.ok ("STORY ERROR: " ++ error.message),
        { site with app := ((Act.handleLine command).run.run site.app).2 }) := by
  unfold answerText
  rw [run_run_bind, run_act, failed]
  dsimp only
  rw [if_pos told]
  rfl

/-- A command that fails has a text all the same, which is shown from then on. -/
theorem run_textFor_of_failed {site : Website} {command : String} {error : EvaluationError}
    (told : error.isTold = true)
    (failed : ((Act.handleLine command).run.run site.app).1 = .error (.story error)) :
    (textFor (some command)).run.run site =
      (.ok ("> " ++ command ++ "\n\n" ++ ("STORY ERROR: " ++ error.message)),
        site.afterStoryError command error) := by
  have asked : (get : Serve Website).run.run site = (.ok site, site) := rfl
  unfold textFor
  rw [run_run_bind, asked]
  dsimp only
  rw [run_run_bind, run_answerText_of_failed told failed]
  rfl

end Serve

/-! ### On both -/

/-- What becomes of a story error that players are told of. A run on the console ends by it exactly if
the first description of the story fails with it: after a command that fails the error is on the
console, and the next line is asked for. A request for the page fails by it exactly if no text was shown
before and the first description fails with it: the text of a command that fails is the error. -/
theorem storyErrors_told {error : EvaluationError} (told : error.isTold = true) :
    (∀ words load scripts picks lines,
      (transcript words load scripts picks lines).ending = .talk (.app (.story error)) ↔
        ∃ options app, Options.parse words = .ok options ∧
          App.ofLoaded options.world options.dev (scripts options.world) (load options.world) =
            .ok app ∧
          (Play.intro.run.run app.engine).1 = .error error) ∧
      (∀ (session : Session) line command rest, commandOf? line = some command →
        ((Act.handleLine command).run.run session.app).1 = .error (.story error) →
        (Talk.converse (line :: rest)).run.run session =
          (Talk.converse rest).run.run (session.afterStoryError command error)) ∧
      (∀ (site : Website) command?,
        ((Serve.textFor command?).run.run site).1 = .error (.app (.story error)) ↔
          command? = none ∧ site.text? = none ∧
            (Play.intro.run.run site.app.engine.exploring).1 = .error error) ∧
      ∀ (site : Website) command,
        ((Act.handleLine command).run.run site.app).1 = .error (.story error) →
        site.answer (.post (some command)) =
          (site.afterStoryError command error,
            .shown (page (site.afterStoryError command error).app.title
              ("> " ++ command ++ "\n\n" ++ ("STORY ERROR: " ++ error.message)))) := by
  refine ⟨?_, ?_, ?_, ?_⟩
  · intro words load scripts picks lines
    exact ending_transcript_iff told
  · intro session line command rest typed failed
    exact Talk.run_converse_of_failed told typed failed
  · intro site command?
    exact Serve.error_textFor_iff told
  · intro site command failed
    have answered := Serve.run_textFor_of_failed told failed
    unfold Website.answer
    dsimp only
    rw [answered]

/-- A hall from which the story goes on to a place that there is not. -/
def brokenHall : Model.World where
  start := "hall"
  title := "Hall"
  player := {}
  locations := [{
    name := "Hall", key? := some "hall", tags? := none, passage := { impact? := some ">nowhere" }
    disableExit := false, descriptors := [], locations := [], interactions := []
    combinations := [] }]
  items := []

/-- The broken hall on the console ends before the first line is read. On a web page a command is
answered by the error. -/
theorem storyErrors_told_brokenHall :
    (transcript [] (fun _ => .ok brokenHall) (fun _ => ⟨Path.parse "scripts", [], []⟩) []
        ["look", "quit"]).ending =
          .talk (.app (.story (.unknownReference "nowhere" .location))) ∧
      ∃ app : App, ∀ site : Website, site.app = app →
        site.answer (.post (some "look")) =
          (site.afterStoryError "look" (.unknownReference "nowhere" .location),
            .shown (page
              (site.afterStoryError "look" (.unknownReference "nowhere" .location)).app.title
              "> look\n\nSTORY ERROR: Unable to find location with key \"nowhere\".")) := by
  have checked : ((Options.parse []).toOption.any fun options =>
      (App.ofLoaded options.world options.dev ⟨Path.parse "scripts", [], []⟩
          (.ok brokenHall)).toOption.any fun app =>
        decide ((Play.intro.run.run app.engine).1 =
            .error (.unknownReference "nowhere" .location)) &&
          decide (((Act.handleLine "look").run.run app).1 =
            .error (.story (.unknownReference "nowhere" .location)))) = true := by decide +kernel
  obtain ⟨options, parsed, checked⟩ := (Option.any_eq_true _ _).1 checked
  obtain ⟨app, made, checked⟩ := (Option.any_eq_true _ _).1 checked
  obtain ⟨intro_fails, look_fails⟩ := Bool.and_eq_true_iff.1 checked
  have run : Options.parse [] = .ok options := eq_ok_of_toOption parsed
  obtain ⟨console, _, _, web⟩ := @storyErrors_told (.unknownReference "nowhere" .location) rfl
  constructor
  · exact (console _ _ _ _ _).2
      ⟨options, app, run, eq_ok_of_toOption made, of_decide_eq_true intro_fails⟩
  · refine ⟨app, ?_⟩
    rintro site rfl
    have text : "> " ++ "look" ++ "\n\n" ++ ("STORY ERROR: " ++
        (EvaluationError.unknownReference "nowhere" .location).message) =
          "> look\n\nSTORY ERROR: Unable to find location with key \"nowhere\"." := by decide +kernel
    rw [← text]
    exact web site "look" (of_decide_eq_true look_fails)

end Narrative
