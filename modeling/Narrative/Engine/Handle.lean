/-
Module: Narrative.Engine.Handle
Purpose: What the engine does for the commands of the player, mode by mode.
Main exports: Play.intro, Play.handle, Play.handleLine
-/
import Narrative.Command
import Narrative.Engine.Describe

namespace Narrative

namespace Reply

/-- An answer to a command that was carried out. -/
def ok (message : String) : Reply := ⟨.ok, message⟩

/-- An answer to a command that was carried out and changed nothing. -/
def noEffect (message : String) : Reply := ⟨.noEffect, message⟩

/-- An answer to a command that could not be carried out. -/
def invalid (message : String) : Reply := ⟨.invalid, message⟩

/-- An answer to the choice of a key that is no option. -/
def notAnOption (key : Char) : Reply := invalid ("'" ++ key.toString ++ "' is not an option.")

/-- An answer to the choice of a key that is no item. -/
def notAnItem (key : Char) : Reply := invalid ("'" ++ key.toString ++ "' is not an item.")

/-- A response of the story with what is shown below it. -/
def told (response below : String) : Reply := ok ("[n]" ++ response ++ "\n\n" ++ below)

end Reply

/-- What the player can type. -/
def helpText : String :=
  joinLines ["[i]Type the key of an option to choose it.", "  i   inventory", "  x   back",
    "  l   look around again"]

namespace Play

/-- The beginning of the story. -/
def intro : Play Reply := do return .ok (← describeLocation true)

/-- Chooses an option at a location. -/
def choose : Choice → Play Reply
  | .location number => do
    setFocus number
    return .ok (← describeLocation true)
  | .interaction location position => do
    let response ← evaluate ⟨location, .interaction position, []⟩ true
    if ← focusMoved then return .told response (← describeLocation true)
    else if response.isEmpty then return .noEffect (← describeOptions)
    else return .told response (← describeOptions)

/-- Handles a command at a location. -/
def handleExplore : Command → Play Reply
  | .help => return .ok helpText
  | .look => do return .ok (← describeLocation false)
  | .inventory => do
    setMode (.inventory none)
    return .ok (← describeInventory)
  | .back => do
    match (← get).options.lookup exitKey with
    | some choice => choose choice
    | none => return .invalid "There is no way back from here."
  | .choose key => do
    match (← get).options.lookup key with
    | some choice => choose choice
    | none => return .notAnOption key

/-- Asks what to combine an item with. -/
def askPartner (item : Nat) : Play Reply := do
  let name := (← get).world.nameOf item
  return .ok ("[i]Combining " ++ name ++ " with ...\n\n" ++ (← describeInventory))

/-- Looks at an item. -/
def examine (item : Nat) : Play Reply := do
  let description ← evaluate ⟨item, .body, []⟩ true
  return .told description (← describeInventory)

/-- Handles a command among the items. Choosing an item for a second time begins to combine it. -/
def handleInventory (selected? : Option Nat) : Command → Play Reply
  | .help => return .ok helpText
  | .back => do
    setMode (.explore selected?)
    return .ok (← describeLocation true)
  | .look | .inventory => do return .ok (← describeInventory)
  | .choose key => do
    match (← get).items.lookup key with
    | none => return .notAnItem key
    | some item =>
      if selected? = some item then
        setMode (.combine item)
        askPartner item
      else
        setMode (.inventory (some item))
        examine item

/-- Combines an item with another entity. -/
def combineWith (selected other : Nat) : Play Reply := do
  setMode (.inventory (some selected))
  match ← ask (·.combinationOf other selected) with
  | none => return .noEffect ("Nothing happens...\n\n" ++ (← describeInventory))
  | some path =>
    let response ← evaluate path true
    if ← focusMoved then
      setMode (.explore (some selected))
      return .told response (← describeLocation true)
    else return .told response (← describeInventory)

/-- Handles the choice of what to combine an item with: the location by the way back, or an item;
the same item again ends the combining. -/
def handleCombine (selected : Nat) : Command → Play Reply
  | .help => return .ok helpText
  | .look | .inventory => askPartner selected
  | .back => do combineWith selected (← focus)
  | .choose key => do
    match (← get).items.lookup key with
    | none => return .notAnItem key
    | some item =>
      if item = selected then
        setMode (.inventory (some selected))
        examine selected
      else combineWith selected item

/-- Handles a command in the mode of the engine. -/
def handle (command : Command) : Play Reply := do
  modify fun engine => { engine with world := { engine.world with focusMoved := false } }
  match (← get).mode with
  | .explore _ => handleExplore command
  | .inventory selected? => handleInventory selected? command
  | .combine selected => handleCombine selected command

/-- Handles a line that the player typed. A line that is no command changes nothing. -/
def handleLine (line : String) : Play Reply :=
  match Command.parse line with
  | .error error => return .invalid error.message
  | .ok command => handle command

end Play

end Narrative
