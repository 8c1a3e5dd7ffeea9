/-
Module: Narrative.App
Purpose: A story ready to be played, with the commands that its author has for trying it out.
Main exports: App, App.start, AppFault, DeveloperCommand, Act, Act.handleLine
-/
import Narrative.Engine.Handle
import Narrative.Script
import Narrative.World.Build
import Narrative.World.Validate

namespace Narrative

/-! ### Starting -/

/-- A story in play: its title, whether the commands for authors are allowed, its scripts, its engine,
and what has been printed beside the answers to commands. -/
structure App where
  title : String
  dev : Bool
  scripts : Scripts
  engine : Engine
  printed : String := ""

/-- The version of the program. -/
def programVersion : String := "0.1.0"

/-- A line of stars. -/
def starLine : String := String.ofList (List.replicate 50 '*')

/-- What is printed before a story begins. -/
def banner (title : String) (dev : Bool) : String :=
  let lines := ["", starLine, title, "Taleloom v" ++ programVersion] ++
    (if dev then ["Developer mode enabled."] else []) ++ [starLine]
  String.join (lines.map (· ++ "\n"))

/-- What is printed about the issues of a world, if there are any. -/
def issueReport (path : Path) (issues : List Issue) : String :=
  if issues.isEmpty then ""
  else
    let lines := ["WORLD VALIDATION FAILED", "File: " ++ path.text] ++
      issues.map fun issue => "- " ++ issue.text
    String.join (lines.map (· ++ "\n"))

namespace App

/-- Builds a world and makes it ready to be played. Its issues are only reported. -/
def start (path : Path) (dev : Bool) (scripts : Scripts) (definition : Model.World) :
    Except BuildError App := do
  let world ← definition.build {}
  let engine := Engine.start world.validate usualExitName
  let printed := issueReport path world.issues ++ banner definition.title dev
  return { title := definition.title, dev, scripts, engine, printed }

end App

/-! ### Commands for authors -/

/-- A command for authors: to go to a location, to show the state, or to run a script. -/
inductive DeveloperCommand where
  | goTo (arguments : List String)
  | state
  | run (arguments : List String)
deriving Repr, DecidableEq

/-- Reads a command for authors, which may stand in quotes. Its name is in any case. -/
def DeveloperCommand.parse? (line : String) : Option DeveloperCommand :=
  let bare := Text.trim (Text.unquote (Text.trim line.toList))
  match (Text.words bare).map String.ofList with
  | [] => none
  | word :: arguments =>
    match Text.lower word with
    | "/goto" => some (.goTo arguments)
    | "/state" => some .state
    | "/run" => some (.run arguments)
    | _ => none

/-- What can end a command: a story that cannot be evaluated, or a script that cannot be run. -/
inductive AppFault where
  | story (error : EvaluationError)
  | script (fault : ScriptFault)
deriving Repr, DecidableEq

/-- What an app does for a line. It keeps the state that it has reached if there is a fault. -/
abbrev Act (α : Type) := ExceptT AppFault (StateM App) α

/-- How many scripts may run inside one another. -/
def maxRunning : Nat := 328

namespace Act

/-- Lets the engine act. -/
def play {α : Type} (action : Play α) : Act α := do
  let app ← get
  let (outcome, engine) := action.run.run app.engine
  set { app with engine }
  match outcome with
  | .ok value => pure value
  | .error error => throw (.story error)

/-- Prints a line. -/
def printLine (line : String) : Act Unit :=
  modify fun app => { app with printed := app.printed ++ line ++ "\n" }

/-- The outcome of something about scripts. -/
def ofScript {α : Type} : Except ScriptFault α → Act α
  | .ok value => pure value
  | .error fault => throw (.script fault)

/-- Goes to the location with a key, whether there is a way or not. -/
def goTo : List String → Act Reply
  | [key] => do
    match (← get).engine.world.resolveLocation? key with
    | none => return .invalid ("'" ++ key ++ "' is not a valid location key")
    | some location => play do
      Play.setFocus location
      return .ok (← Play.describeLocation true)
  | _ => return .invalid "Usage: /GOTO location_key"

/-- Tags as words, or another word if there are none. -/
def listed (tags : TagSet) (otherwise : String) : String :=
  if tags.toList.isEmpty then otherwise else Text.enumerate tags.toList "and"

/-- What the state is. -/
def stateText (world : World) : String :=
  joinLines [
    "[i]Focus: " ++ world.labelOf world.focus ++
      " (tags: " ++ listed (world.tagsOf (.entity world.focus)) "none" ++ ")",
    "Player tags: " ++ listed world.player "none",
    "Inventory: " ++ listed world.inventory "nothing"]

/-- Handles the lines of a script up to the first that is invalid, and gives the lines to show. -/
def runLines (handle : String → Act Reply) : List String → Act (List String)
  | [] => return []
  | line :: rest => do
    let heading := "[i]> " ++ line
    let reply ← handle line
    if reply.status = .invalid then return [heading, "ERROR: " ++ reply.message]
    else return heading :: reply.message :: (← runLines handle rest)

/-- Runs the script with a name. -/
def runScript (handle : String → Act Reply) : List String → Act Reply
  | [name] => do
    let scripts := (← get).scripts
    match ← ofScript (scripts.locate name) with
    | none => return .invalid "Invalid filename"
    | some file =>
      printLine ("(Running: " ++ file.path.text ++ ")")
      match ← ofScript (scripts.read file) with
      | none => return .invalid "No script found."
      | some text =>
        let shown ← runLines handle (scriptLines text)
        return .ok (joinLines (shown ++ ["[i]Script completed."]))
  | _ => return .invalid "Usage: /RUN scriptfile"

/-- Handles a line, with at most so many scripts running inside one another. -/
def handleNested : (running : Nat) → String → Act Reply
  | running, line => do
    match if (← get).dev then DeveloperCommand.parse? line else none with
    | none => play (Play.handleLine line)
    | some (.goTo arguments) => goTo arguments
    | some .state => return .ok (stateText (← get).engine.world)
    | some (.run arguments) =>
      match running with
      | 0 => throw (.script .tooDeep)
      | running + 1 => runScript (handleNested running) arguments

/-- Handles a line: a command for authors if they are allowed, or else one of the player. -/
def handleLine (line : String) : Act Reply := handleNested maxRunning line

end Act

end Narrative
