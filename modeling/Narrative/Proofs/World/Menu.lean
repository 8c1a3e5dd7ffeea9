/-
Module: Narrative.Proofs.World.Menu
Purpose: What a menu shows when it is right: what the world offers at the location where the story
  is, and what the player carries, read off the world itself.
Main exports: World.offered, World.carried, World.availableInteractions_eq, World.availableItems_eq
-/
import Narrative.Engine.Describe
import Narrative.Proofs.World.Evaluation

namespace Narrative.World

/-- The interactions at a location that may be told, in the order of their declaration. -/
def openInteractions (world : World) (location : Nat) : List Nat :=
  (List.range (((world.entity? location).map (·.interactions)).getD []).length).filter
    (world.isOpen ⟨location, .interaction ·, []⟩)

/-- The locations inside a location that may be told. -/
def openInside (world : World) (location : Nat) : List Nat :=
  (world.inside location).filter (world.isOpen ⟨·, .body, []⟩)

/-- The items that are held and may be told, in the order of their keys. -/
def openItems (world : World) : List Nat :=
  (world.inventory.toList.filterMap world.resolveItem?).filter (world.isOpen ⟨·, .body, []⟩)

/-- Where the way back from a location leads, unless it is hidden. -/
def wayBack (world : World) (location : Nat) : List Nat :=
  if (world.place? location).any (·.disableExit) then [] else (world.parent? location).toList

/-- The options at the location where the story is: the first eight interactions, the first eight
locations inside it, and the way back. -/
def offered (world : World) : List (Char × Choice) :=
  ['1', '2', '3', '4', '5', '6', '7', '8'].zip
      ((world.openInteractions world.focus).map (.interaction world.focus ·)) ++
    ['a', 'b', 'c', 'd', 'e', 'f', 'g', 'h'].zip ((world.openInside world.focus).map .location) ++
    (world.wayBack world.focus).map fun parent => ('x', .location parent)

/-- The first eight items that are held and may be told. -/
def carried (world : World) : List (Char × Nat) :=
  ['1', '2', '3', '4', '5', '6', '7', '8'].zip world.openItems

theorem numberKeys_eq : numberKeys = ['1', '2', '3', '4', '5', '6', '7', '8'] := by decide

theorem letterKeys_eq : letterKeys = ['a', 'b', 'c', 'd', 'e', 'f', 'g', 'h'] := by decide

/-- The keys of the options are those that the engine gives out. -/
theorem offered_eq (world : World) : world.offered =
    numberKeys.zip ((world.openInteractions world.focus).map (.interaction world.focus ·)) ++
      letterKeys.zip ((world.openInside world.focus).map .location) ++
      (world.wayBack world.focus).map fun parent => (exitKey, .location parent) := by
  rw [numberKeys_eq, letterKeys_eq]
  rfl

/-- So are the keys of the items. -/
theorem carried_eq (world : World) : world.carried = numberKeys.zip world.openItems := by
  rw [numberKeys_eq]
  rfl

/-! ### What is asked for a menu -/

variable {world : World}

theorem availableInteractions_eq {location : Nat} {found : List Nat}
    (asked : world.availableInteractions location = .ok found) :
    found = world.openInteractions location :=
  availableAmong_eq_filter asked

theorem availableInside_eq {location : Nat} {found : List Nat}
    (asked : world.availableInside location = .ok found) : found = world.openInside location :=
  availableAmong_eq_filter asked

theorem availableItems_eq {found : List Nat} (asked : world.availableItems = .ok found) :
    found = world.openItems :=
  availableAmong_eq_filter asked

end Narrative.World
