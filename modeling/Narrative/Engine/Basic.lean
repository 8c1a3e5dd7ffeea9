/-
Module: Narrative.Engine.Basic
Purpose: The engine that plays a story: its modes, the menus that it has shown, and its answers.
Main exports: Mode, Choice, Engine, Reply, Play
-/
import Narrative.World.Change

namespace Narrative

/-- What the player does: exploring a location, looking at the items that are held, or choosing what
to combine an item with. The item that was looked at last is remembered. -/
inductive Mode where
  | explore (selected? : Option Nat)
  | inventory (selected? : Option Nat)
  | combine (selected : Nat)
deriving Repr, DecidableEq

namespace Mode

/-- The name of a mode. -/
def word : Mode → String
  | .explore _ => "explore"
  | .inventory _ => "inventory"
  | .combine _ => "combine"

/-- The item that was looked at last. -/
def selected? : Mode → Option Nat
  | .explore selected? | .inventory selected? => selected?
  | .combine selected => some selected

end Mode

/-- What an option at a location stands for: an interaction there, or another location. -/
inductive Choice where
  | interaction (location position : Nat)
  | location (number : Nat)
deriving Repr, DecidableEq

/-- How a command ended. -/
inductive Status where
  | ok
  | noEffect
  | invalid
deriving Repr, DecidableEq

/-- The name of a status. -/
def Status.word : Status → String
  | .ok => "ok"
  | .noEffect => "no_effect"
  | .invalid => "invalid"

/-- The answer to a command. Its message still contains markup. -/
structure Reply where
  status : Status
  message : String
deriving Repr, DecidableEq

/-- The engine: the world, what the way back is called, the mode, and the options and items of the
menus that were shown last, in the order of the menu. -/
structure Engine where
  world : World
  exitName : String
  mode : Mode := .explore none
  options : List (Char × Choice) := []
  items : List (Char × Nat) := []

/-- What the engine does for a command. It keeps the state that it has reached if an evaluation
fails. -/
abbrev Play (α : Type) := ExceptT EvaluationError (StateM Engine) α

/-- The words for the way back in a menu. -/
def usualExitName : String := "Back to"

namespace Engine

/-- An engine for a world, which listens to the focus. -/
def start (world : World) (exitName : String) : Engine :=
  { world := world.listen .focusChanged .watchFocus, exitName }

/-- The name of a choice. -/
def nameOf (engine : Engine) : Choice → String
  | .interaction location position =>
    ((engine.world.entity? location).bind fun entity =>
      entity.interactions[position]?.map (·.name)).getD ""
  | .location number => engine.world.nameOf number

end Engine

namespace Play

/-- Does what may fail midway to the world. -/
def change {α : Type} (action : World → World.Outcome α) : Play α := do
  let engine ← get
  let (world, outcome) := action engine.world
  set { engine with world }
  liftExcept outcome
where
  /-- The value, or the failure. -/
  liftExcept : Except EvaluationError α → Play α
    | .ok value => pure value
    | .error error => throw error

/-- Asks the world something that may fail. -/
def ask {α : Type} (question : World → Except EvaluationError α) : Play α :=
  change fun world => (world, question world)

/-- Evaluates the node at a path. -/
def evaluate (path : NodePath) (counts : Bool) : Play String :=
  change (·.evaluate path counts)

/-- Moves the focus. -/
def setFocus (location : Nat) : Play Unit :=
  change fun world => (world.setFocus location, .ok ())

/-- The location where the story is. -/
def focus : Play Nat := do return (← get).world.focus

/-- Whether the focus has moved since the command was received. -/
def focusMoved : Play Bool := do return (← get).world.focusMoved

/-- Changes the mode. -/
def setMode (mode : Mode) : Play Unit := modify fun engine => { engine with mode }

/-- Writes a record. -/
def note (record : LogRecord) : Play Unit :=
  modify fun engine =>
    { engine with world := { engine.world with log := engine.world.log ++ [record] } }

end Play

end Narrative
