/-
Module: Narrative.Proofs.World.Outline
Purpose: The outline of a definition: its locations one after the other, each before those inside it,
  with the numbers that this order gives them. The numbers of the locations inside a location are
  those of its own locations in their order, and every location with a parent is inside it.
Main exports: Model.Spot, Model.Location.outline, Model.Spot.inside, Model.Location.numbers_outlineAll,
  Model.Location.nested_outlineAll, Model.Location.around_outlineAll
-/
import Mathlib.Data.List.Forall2
import Narrative.World.Model

namespace Narrative.Model

/-- A location of a definition in its place: its number, and that of the location around it. -/
structure Spot where
  number : Nat
  parent? : Option Nat
  location : Location

namespace Location

mutual

/-- How many locations a location consists of, itself and all that lie in it. -/
def size : Location → Nat
  | ⟨_, _, _, _, _, _, locations, _, _⟩ => sizeAll locations + 1

/-- How many locations some locations consist of. -/
def sizeAll : List Location → Nat
  | [] => 0
  | location :: rest => size location + sizeAll rest

end

/-- The numbers of locations that stand one after the other, each followed by all that lie in it. -/
def numbersFrom : (number : Nat) → List Location → List Nat
  | _, [] => []
  | number, location :: rest => number :: numbersFrom (number + location.size) rest

mutual

/-- A location and then all that lie in it, numbered from a number on. -/
def outline (parent? : Option Nat) (number : Nat) : Location → List Spot
  | ⟨name, key?, tags?, passage, disableExit, descriptors, locations, interactions, combinations⟩ =>
    ⟨number, parent?, ⟨name, key?, tags?, passage, disableExit, descriptors, locations, interactions,
      combinations⟩⟩ :: outlineAll (some number) (number + 1) locations

/-- Locations one after the other, each followed by all that lie in it. -/
def outlineAll (parent? : Option Nat) : (number : Nat) → List Location → List Spot
  | _, [] => []
  | number, location :: rest =>
    outline parent? number location ++ outlineAll parent? (number + location.size) rest

end

theorem outline_eq (parent? : Option Nat) (number : Nat) (location : Location) :
    location.outline parent? number =
      ⟨number, parent?, location⟩ :: outlineAll (some number) (number + 1) location.locations := by
  cases location
  rfl

end Location

/-- The numbers of the locations inside a location in its place. -/
def Spot.inside (spot : Spot) : List Nat :=
  Location.numbersFrom (spot.number + 1) spot.location.locations

/-- The locations of a world, each in its place. -/
def World.outline (world : World) : List Spot := Location.outlineAll none 0 world.locations

namespace Location

/-! ### Numbers -/

theorem le_of_mem_numbersFrom {number inner : Nat} {locations : List Location}
    (member : inner ∈ numbersFrom number locations) : number ≤ inner := by
  induction locations generalizing number with
  | nil => cases member
  | cons location rest ih =>
      rcases List.mem_cons.1 member with rfl | later
      · exact Nat.le_refl _
      · exact Nat.le_trans (Nat.le_add_right number _) (ih later)

mutual

theorem numbers_outline : ∀ (parent? : Option Nat) (number : Nat) (location : Location),
    (location.outline parent? number).map (·.number) = List.range' number location.size
  | parent?, number, ⟨_, _, _, _, _, _, locations, _, _⟩ => by
      rw [outline, size, List.map_cons, numbers_outlineAll (some number) (number + 1) locations,
        List.range'_succ]

/-- The places in an outline are numbered one after the other. -/
theorem numbers_outlineAll : ∀ (parent? : Option Nat) (number : Nat) (locations : List Location),
    (outlineAll parent? number locations).map (·.number) =
      List.range' number (sizeAll locations)
  | _, _, [] => rfl
  | parent?, number, location :: rest => by
      rw [outlineAll, sizeAll, List.map_append, numbers_outline parent? number location,
        numbers_outlineAll parent? (number + location.size) rest, List.range'_append_1]

end

/-- In the outline of a world every location stands at its number. -/
theorem number_of_getElem? {world : World} {position : Nat} {spot : Spot}
    (found : world.outline[position]? = some spot) : spot.number = position := by
  have numbered := congrArg (·[position]?) (numbers_outlineAll none 0 world.locations)
  change (world.outline.map (·.number))[position]? = _ at numbered
  rw [List.getElem?_map, found] at numbered
  obtain ⟨_, same⟩ := List.getElem?_eq_some_iff.1 numbered.symm
  simpa using same.symm

theorem getElem?_of_mem_outline {world : World} {spot : Spot} (member : spot ∈ world.outline) :
    world.outline[spot.number]? = some spot := by
  obtain ⟨position, found⟩ := List.mem_iff_getElem?.1 member
  rw [number_of_getElem? found, found]

/-! ### Locations inside and around -/

/-- The numbers of locations that stand one after the other are those of their places. -/
theorem heads_outlineAll (parent? : Option Nat) (number : Nat) (locations : List Location) :
    List.Forall₂ (fun inner location => ⟨inner, parent?, location⟩ ∈ outlineAll parent? number locations)
      (numbersFrom number locations) locations := by
  induction locations generalizing number with
  | nil => exact .nil
  | cons location rest ih =>
      constructor
      · rw [outlineAll, outline_eq]
        exact List.mem_append_left _ List.mem_cons_self
      · apply (ih (number + location.size)).imp
        intro inner nested member
        exact List.mem_append_right _ member

mutual

theorem nested_outline : ∀ (parent? : Option Nat) (number : Nat) (location : Location),
    ∀ spot ∈ location.outline parent? number,
      List.Forall₂ (fun inner nested =>
          ⟨inner, some spot.number, nested⟩ ∈ location.outline parent? number)
        spot.inside spot.location.locations
  | parent?, number, ⟨name, key?, tags?, passage, disableExit, descriptors, locations, interactions,
      combinations⟩, spot, member => by
      rw [outline] at member ⊢
      rcases List.mem_cons.1 member with rfl | below
      · apply (heads_outlineAll (some number) (number + 1) locations).imp
        intro inner nested member
        exact List.mem_cons_of_mem _ member
      · apply (nested_outlineAll (some number) (number + 1) locations spot below).imp
        intro inner nested member
        exact List.mem_cons_of_mem _ member

/-- The numbers inside a location in its place are those of its own locations, in their order. -/
theorem nested_outlineAll : ∀ (parent? : Option Nat) (number : Nat) (locations : List Location),
    ∀ spot ∈ outlineAll parent? number locations,
      List.Forall₂ (fun inner nested =>
          ⟨inner, some spot.number, nested⟩ ∈ outlineAll parent? number locations)
        spot.inside spot.location.locations
  | _, _, [], _, member => by cases member
  | parent?, number, location :: rest, spot, member => by
      rw [outlineAll] at member ⊢
      rcases List.mem_append.1 member with first | later
      · apply (nested_outline parent? number location spot first).imp
        intro inner nested member
        exact List.mem_append_left _ member
      · apply (nested_outlineAll parent? (number + location.size) rest spot later).imp
        intro inner nested member
        exact List.mem_append_right _ member

end

mutual

theorem around_outline : ∀ (parent? : Option Nat) (number : Nat) (location : Location),
    ∀ spot ∈ location.outline parent? number,
      (spot.parent? = parent? ∧ spot.number = number) ∨
        ∃ outer ∈ location.outline parent? number,
          spot.parent? = some outer.number ∧ spot.number ∈ outer.inside
  | parent?, number, ⟨name, key?, tags?, passage, disableExit, descriptors, locations, interactions,
      combinations⟩, spot, member => by
      rw [outline] at member ⊢
      rcases List.mem_cons.1 member with rfl | below
      · exact .inl ⟨rfl, rfl⟩
      · right
        rcases around_outlineAll (some number) (number + 1) locations spot below with
          ⟨parent, inside⟩ | ⟨outer, among, parent, inside⟩
        · exact ⟨_, List.mem_cons_self, parent, inside⟩
        · exact ⟨outer, List.mem_cons_of_mem _ among, parent, inside⟩

/-- A location in its place is one of those that the outline is of, or it has a parent, and is inside
it. -/
theorem around_outlineAll : ∀ (parent? : Option Nat) (number : Nat) (locations : List Location),
    ∀ spot ∈ outlineAll parent? number locations,
      (spot.parent? = parent? ∧ spot.number ∈ numbersFrom number locations) ∨
        ∃ outer ∈ outlineAll parent? number locations,
          spot.parent? = some outer.number ∧ spot.number ∈ outer.inside
  | _, _, [], _, member => by cases member
  | parent?, number, location :: rest, spot, member => by
      rw [outlineAll] at member ⊢
      rcases List.mem_append.1 member with first | later
      · rcases around_outline parent? number location spot first with
          ⟨parent, rfl⟩ | ⟨outer, among, parent, inside⟩
        · exact .inl ⟨parent, List.mem_cons_self⟩
        · exact .inr ⟨outer, List.mem_append_left _ among, parent, inside⟩
      · rcases around_outlineAll parent? (number + location.size) rest spot later with
          ⟨parent, top⟩ | ⟨outer, among, parent, inside⟩
        · exact .inl ⟨parent, List.mem_cons_of_mem _ top⟩
        · exact .inr ⟨outer, List.mem_append_right _ among, parent, inside⟩

end

end Location

end Narrative.Model
