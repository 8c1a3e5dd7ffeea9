/-
Module: Narrative.Session
Purpose: Playing a story on a console, line by line.
Main exports: Session, Talk, Session.start, Talk.begin, Talk.answer, Ending, Transcript, transcript
-/
import Narrative.App
import Narrative.Console
import Narrative.Options
import Narrative.World.Load

namespace Narrative

/-! ### Starting -/

/-- Why an app cannot be made of a file. -/
inductive StartFault where
  | load (error : LoadError)
  | build (error : BuildError)

namespace StartFault

/-- The fault in words. -/
def message : StartFault → String
  | .load error => error.message
  | .build error => error.message

/-- What is recorded about the fault. -/
def records : StartFault → List LogRecord
  | .load _ => []
  | .build error => error.records

/-- Whether the player is told about the fault. -/
def isReported : StartFault → Bool
  | .load error => error.isReported
  | .build _ => true

end StartFault

/-- Makes an app of what was loaded from a file. -/
def App.ofLoaded (path : Path) (dev : Bool) (scripts : Scripts)
    (loaded : Except LoadError Model.World) : Except StartFault App := do
  let definition ← loaded.mapError .load
  (App.start path dev scripts definition).mapError .build

/-! ### Talking -/

/-- A session: the app, how text is shown, the random numbers that are left, and what has been done
on the console. -/
structure Session where
  app : App
  presenter : Presenter
  picks : List Int
  strokes : List Stroke := []

/-- What can end a session: a fault of the app, or an argument that cannot be chosen. -/
inductive TalkFault where
  | app (fault : AppFault)
  | markup (failure : Markup.NoSuchArgument)
deriving Repr, DecidableEq

/-- What a session does. It keeps the state that it has reached if there is a fault. -/
abbrev Talk (α : Type) := ExceptT TalkFault (StateM Session) α

/-- What stands before the player's input. -/
def prompt : String := "> "

/-- The words that end a session. -/
def farewells : List String := ["quit", "exit"]

/-- What is shown about a story that cannot be evaluated. -/
def storyErrorText (error : EvaluationError) : String := "STORY ERROR: " ++ error.message

/-- The log of an app with more records, and its listeners told of the events of a text. -/
def App.afterText (rendered : Markup.RenderState) (app : App) : App :=
  let world := rendered.raised.foldl (fun world argument => world.emit (.script argument))
    app.engine.world
  let log := world.log ++ rendered.unknown.map Markup.unknownRecord
  { app with engine := { app.engine with world := { world with log } } }

namespace Talk

/-- Prints characters. -/
def print (text : String) : Talk Unit :=
  modify fun session => { session with strokes := session.strokes ++ [.print text.toList] }

/-- Lets the app act, and prints what it prints. -/
def act {α : Type} (action : Act α) : Talk (Except AppFault α) := do
  let session ← get
  let (outcome, app) := action.run.run session.app
  set { session with app := { app with printed := "" } }
  print app.printed
  return outcome

/-- Shows a text with markup. -/
def write (text : String) : Talk Unit := do
  let session ← get
  let writing := session.presenter.write text.toList session.picks
  set { session with
    app := session.app.afterText writing.final
    picks := writing.final.picks
    strokes := session.strokes ++ writing.strokes }
  match writing.failure? with
  | none => pure ()
  | some failure => throw (.markup failure)

/-- Shows the beginning of the story. -/
def begin : Talk Unit := do
  match ← act (Act.play Play.intro) with
  | .ok reply => write reply.message
  | .error fault => throw (.app fault)

/-- Answers a line of the player; the flag says whether the session goes on. -/
def answer (line : String) : Talk Bool := do
  let line := String.ofList (Text.trim line.toList)
  if line.isEmpty then return true
  else if Text.lower line ∈ farewells then return false
  else
    match ← act (Act.handleLine line) with
    | .ok reply =>
      print "\n"
      write reply.message
      return true
    | .error (.story error) =>
      if error.isTold then
        print (storyErrorText error ++ "\n")
        return true
      else throw (.app (.story error))
    | .error fault => throw (.app fault)

/-- Asks for lines until there are no more or the player leaves. -/
def converse : List String → Talk Unit
  | [] => print prompt
  | line :: rest => do
    print prompt
    if ← answer line then converse rest

/-- A whole session. -/
def whole (lines : List String) : Talk Unit := do
  begin
  converse lines

end Talk

/-- A session at its start: what the app has printed is on the console. -/
def Session.start (options : Options) (app : App) (picks : List Int) : Session where
  app := { app with printed := "" }
  presenter := ⟨options.speed, !options.noDelay, !options.noColor⟩
  picks
  strokes := [.print app.printed.toList]

/-! ### Whole runs of the program -/

/-- How a run ends: as it should, with a code, with a fault at the start, or with one in a
session. -/
inductive Ending where
  | done
  | code (number : Nat)
  | start (fault : StartFault)
  | talk (fault : TalkFault)

/-- A run: what was done on the console, the log, and the ending. -/
structure Transcript where
  strokes : List Stroke
  log : List LogRecord
  ending : Ending

/-- What is printed about a world that cannot be played. -/
def cannotStart (fault : StartFault) : String := "Cannot start: " ++ fault.message ++ "\n"

/-- The code of a run that could not start. -/
def failureCode : Nat := 1

/-- The lines of an input. Line feeds end lines; the last line may lack one. -/
def inputLines (input : String) : List String :=
  let lines := (input.toList.splitOn '\n').map String.ofList
  if lines.getLast? = some "" then lines.dropLast else lines

/-- A run of the program: its words, what is loaded from a file, the scripts beside it, the random
numbers and the lines of the player. -/
def transcript (words : List String) (load : Path → Except LoadError Model.World)
    (scripts : Path → Scripts) (picks : List Int) (lines : List String) : Transcript :=
  match Options.parse words with
  | .error refusal => ⟨[.print refusal.answer.toList], [], .code refusal.code⟩
  | .ok options =>
    let path := options.world
    match App.ofLoaded path options.dev (scripts path) (load path) with
    | .error fault =>
      if fault.isReported then
        ⟨[.print (cannotStart fault).toList], fault.records, .code failureCode⟩
      else ⟨[], fault.records, .start fault⟩
    | .ok app =>
      let (outcome, session) := (Talk.whole lines).run.run (Session.start options app picks)
      let ending := match outcome with
        | .ok _ => .done
        | .error fault => .talk fault
      ⟨session.strokes, session.app.engine.world.log, ending⟩

end Narrative
