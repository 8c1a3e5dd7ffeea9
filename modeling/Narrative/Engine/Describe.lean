/-
Module: Narrative.Engine.Describe
Purpose: What the engine shows: descriptions of locations, and the menus of options and items, which
  it remembers.
Main exports: Play.describeOptions, Play.describeInventory, Play.describeLocation
-/
import Narrative.Engine.Basic
import Narrative.Text.Case

namespace Narrative

/-- The keys of interactions and of items. -/
def numberKeys : List Char := "12345678".toList

/-- The keys of locations inside a location. -/
def letterKeys : List Char := "abcdefgh".toList

/-- The key of the way back. -/
def exitKey : Char := 'x'

/-! ### Lines of menus -/

/-- Lines as one text. -/
def joinLines (lines : List String) : String := "\n".intercalate lines

/-- A line of a menu. The bracket is doubled, since it would begin a directive otherwise. -/
def menuLine (key name : String) : String := "[[" ++ key ++ "] " ++ name

/-- The line for the way back. -/
def exitLine (exitName name : String) : String :=
  menuLine (Text.upper exitKey.toString) (exitName ++ " " ++ name)

/-- Groups of lines, with an empty line between those that are not empty. -/
def groupLines (groups : List (List String)) : List String :=
  [""].intercalate (groups.filter (! ·.isEmpty))

namespace Play

/-- The lines for some entries of a menu. -/
def optionLines (options : List (Char × Choice)) : Play (List String) := do
  let engine ← get
  return options.map fun (key, choice) => menuLine key.toString (engine.nameOf choice)

/-- Adds options to those of the menu. -/
def addOptions (options : List (Char × Choice)) : Play Unit :=
  modify fun engine => { engine with options := engine.options ++ options }

/-- Shows the options at the location where the story is: up to eight interactions, up to eight
locations inside it, and the way back. The old options are forgotten first, so those that were found
before a failure are the ones that are left. -/
def describeOptions : Play String := do
  let location ← focus
  modify fun engine => { engine with options := [] }
  let positions ← ask (·.availableInteractions location)
  let interactions := numberKeys.zip (positions.map (.interaction location ·))
  addOptions interactions
  let numbers ← ask (·.availableInside location)
  let inside := letterKeys.zip (numbers.map .location)
  addOptions inside
  let engine ← get
  let hidden := (engine.world.place? location).any (·.disableExit)
  let parents := if hidden then [] else (engine.world.parent? location).toList
  addOptions (parents.map fun parent => (exitKey, .location parent))
  let ways := parents.map fun parent => exitLine engine.exitName (engine.world.nameOf parent)
  return "[i]" ++
    joinLines (groupLines [← optionLines interactions, ← optionLines inside, ways])

/-- Shows up to eight of the items that the player holds. -/
def describeInventory : Play String := do
  modify fun engine => { engine with items := [] }
  let items := numberKeys.zip (← ask (·.availableItems))
  modify fun engine => { engine with items }
  let engine ← get
  let lines := items.map fun (key, number) => menuLine key.toString (engine.world.nameOf number)
  return joinLines (["[i]INVENTORY", ""] ++
    (if items.isEmpty then ["You carry nothing."] else lines) ++
    [exitLine engine.exitName (engine.world.nameOf engine.world.focus)])

/-- The record of a description that came back to a location. -/
def loopRecord (entering stopped : String) : LogRecord :=
  ⟨.warning, .engine, "Focus loop entering " ++ entering ++ ", stopped at " ++ stopped⟩

/-- The lines of a location that has been evaluated. -/
def blockLines (name description : String) : List String :=
  ["[i]" ++ Text.upper name, "", "[n]" ++ description, ""]

/-- Describes a location and, as long as the focus moves on to a location that was not described
yet, the one where it moved. The list holds the locations that may still be described. -/
def describeFrom (counts : Bool) (location : Nat) (others : List Nat) : Play (List String) := do
  let description ← evaluate ⟨location, .body, []⟩ counts
  let world := (← get).world
  let lines := blockLines (world.nameOf location) description
  let next ← focus
  if next = location then return lines
  else if _ : next ∈ others then
    return lines ++ (← describeFrom counts next (others.erase next))
  else
    note (loopRecord (world.labelOf location) (world.labelOf next))
    return lines
termination_by others.length
decreasing_by
  have shorter := List.length_erase_of_mem ‹_ ∈ others›
  have := List.length_pos_of_mem ‹_ ∈ others›
  omega

/-- Describes the location where the story is, and then its options. -/
def describeLocation (counts : Bool) : Play String := do
  let engine ← get
  let location := engine.world.focus
  let others := (List.range engine.world.entities.length).erase location
  let lines ← describeFrom counts location others
  return joinLines (lines ++ [← describeOptions])

end Play

end Narrative
