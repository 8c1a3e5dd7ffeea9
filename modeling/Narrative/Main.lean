/-
Module: Narrative.Main
Purpose: The program: it plays the story of a file on the console.
Main exports: main
-/
import Narrative.Session

namespace Narrative.Program

open Numeral (Binary64)

/-! ### The console -/

/-- A wait in milliseconds. What is no time to wait is none. -/
def milliseconds (seconds : Binary64) : UInt32 :=
  match (seconds.mul (.ofDyadic false 1000 0)).dyadic? with
  | some (n, exponent) =>
    let whole := n * Numeral.twoTo exponent.toNat / Numeral.twoTo (-exponent).toNat
    UInt32.ofNat (min whole.toNat 0xffffffff)
  | none => 0

/-- Does one stroke. -/
def perform (stroke : Stroke) : IO Unit := do
  let out ← IO.getStdout
  match stroke with
  | .print characters => out.putStr (String.ofList characters)
  | .sleep seconds =>
    out.flush
    IO.sleep (milliseconds seconds)

/-- The name of a severity. -/
def severityName : Severity → String
  | .warning => "WARNING"
  | .error => "ERROR"

/-- The name of a part of the program. -/
def sourceName : LogSource → String
  | .builder => "builder"
  | .engine => "engine"
  | .events => "events"
  | .markup => "markup"

/-- Whether records of a severity are shown. -/
def isShown (level : LogLevel) (severity : Severity) : Bool := level ≠ .error || severity = .error

/-- Shows records, apart from the story. -/
def showLog (level : LogLevel) (records : List LogRecord) : IO Unit := do
  let err ← IO.getStderr
  for record in records do
    if isShown level record.severity then
      err.putStrLn ("[" ++ severityName record.severity ++ "] [" ++ sourceName record.source ++
        "] " ++ record.message)

/-! ### Files -/

/-- The bytes of a file. -/
def readBytes (path : String) : IO (Except FileFault (List Nat)) := do
  try
    let bytes ← IO.FS.readBinFile path
    return .ok (bytes.toList.map (·.toNat))
  catch error =>
    match error with
    | .permissionDenied .. => return .error .denied
    | .inappropriateType .. => return .error .folder
    | _ => return .error .missing

/-- The scripts folder beside a file. No script has been read yet. -/
def scriptsBeside (path : Path) : IO Scripts := do
  let here := Path.parse (toString (← IO.currentDir))
  let folder := path.parent ++ Path.parse "scripts"
  return { folder, base := resolveDots (here ++ folder).parts, files := [] }

/-- Reads the script that a line runs, and those that its lines run in turn. -/
def readScripts : (depth : Nat) → Scripts → String → IO Scripts
  | 0, scripts, _ => return scripts
  | depth + 1, scripts, line => do
    let some (.run [name]) := DeveloperCommand.parse? line | return scripts
    let .ok (some file) := scripts.locate name | return scripts
    let parts := (resolveDots file.full).drop scripts.base.length
    if scripts.files.any (·.1 = parts) then return scripts
    let .ok bytes ← readBytes file.path.text | return scripts
    let mut known := { scripts with files := scripts.files ++ [(parts, bytes)] }
    let .ok (some text) := known.read file | return known
    for inner in scriptLines text do
      known ← readScripts depth known inner
    return known

/-! ### Sessions -/

/-- How many random numbers there are for a line. -/
def picksPerLine : Nat := 4096

/-- Random numbers. -/
def randoms (generator : StdGen) : (count : Nat) → List Int × StdGen
  | 0 => ([], generator)
  | count + 1 =>
    let (pick, generator) := stdNext generator
    let (picks, generator) := randoms generator count
    (pick :: picks, generator)

/-- A session, what is shown of its log, and where its random numbers come from. -/
structure Running where
  session : Session
  level : LogLevel
  generator : StdGen

/-- Does a part of a session, and shows what it brings. -/
def advance {α : Type} (action : Talk α) (running : Running) :
    IO (Except TalkFault α × Running) := do
  let (picks, generator) := randoms running.generator picksPerLine
  let (outcome, session) := action.run.run { running.session with picks }
  for stroke in session.strokes do
    perform stroke
  (← IO.getStdout).flush
  let engine := session.app.engine
  showLog running.level engine.world.log
  let engine := { engine with world := { engine.world with log := [] } }
  let session := { session with app := { session.app with engine }, strokes := [] }
  return (outcome, { running with session, generator })

/-- Says what ended a session. -/
def report (fault : TalkFault) : IO UInt32 := do
  let err ← IO.getStderr
  match fault with
  | .app (.story error) => err.putStrLn error.message
  | .app (.script (.unreadable path fault)) => err.putStrLn (fault.message path.text)
  | .app (.script (.notText fault)) => err.putStrLn fault.message
  | .app (.script _) => err.putStrLn "This script cannot be run."
  | .markup _ => err.putStrLn "There is no such argument."
  return 1

/-- Asks for lines until there are no more or the player leaves. -/
partial def converse (running : Running) : IO UInt32 := do
  let (_, running) ← advance (Talk.print prompt) running
  let line ← (← IO.getStdin).getLine
  if line.isEmpty then return 0
  let app := running.session.app
  let scripts ← if app.dev then readScripts maxRunning app.scripts line else pure app.scripts
  let session := { running.session with app := { app with scripts } }
  match ← advance (Talk.answer line) { running with session } with
  | (.ok true, running) => converse running
  | (.ok false, _) => return 0
  | (.error fault, _) => report fault

/-- Plays the story that the options name. -/
def play (options : Options) : IO UInt32 := do
  let path := options.world
  let loaded := Model.World.ofFile path (← readBytes path.text)
  match App.ofLoaded path options.dev (← scriptsBeside path) loaded with
  | .error fault =>
    showLog options.logLevel fault.records
    if fault.isReported then IO.print (cannotStart fault)
    else (← IO.getStderr).putStrLn fault.message
    return 1
  | .ok app =>
    let seed ← match options.seed? with
      | some seed => pure seed.natAbs
      | none => IO.rand 0 (Numeral.twoTo 31)
    let running : Running :=
      { session := Session.start options app [], level := options.logLevel,
        generator := mkStdGen seed }
    match ← advance Talk.begin running with
    | (.ok _, running) => converse running
    | (.error fault, _) => report fault

end Narrative.Program

/-- Reads the options and plays the story. -/
def main (words : List String) : IO UInt32 := do
  match Narrative.Options.parse words with
  | .ok options => Narrative.Program.play options
  | .error refusal =>
    IO.print refusal.answer
    if refusal = .usage then (← IO.getStderr).putStr Narrative.usageText
    return UInt32.ofNat refusal.code
