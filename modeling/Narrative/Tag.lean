/-
Module: Narrative.Tag
Purpose: Sets of tags, listed in order, and the text that lists tags.
Main exports: Manipulation, TagSet, TagSet.insert, TagSet.erase, TagSet.apply, TagText,
  TagSet.parse
-/
import Narrative.Error
import Narrative.Text.Order
import Narrative.Text.Split

namespace Narrative

open Text (precedes)

/-- What an impact does to a membership. -/
inductive Manipulation where
  | add
  | remove
  | invert
deriving Repr, DecidableEq

/-- A finite set of tags. Its listing is strictly increasing by code point, so a set has one
listing only. -/
structure TagSet where
  toList : List String
  increasing : toList.Pairwise fun s t => precedes s t = true

namespace TagSet

theorem ext {s t : TagSet} (h : s.toList = t.toList) : s = t := by
  cases s; cases t; cases h; rfl

instance : DecidableEq TagSet := fun s t =>
  if h : s.toList = t.toList then isTrue (ext h) else isFalse fun e => h (e ▸ rfl)

instance : Membership String TagSet := ⟨fun s tag => tag ∈ s.toList⟩

instance (tag : String) (s : TagSet) : Decidable (tag ∈ s) :=
  inferInstanceAs (Decidable (tag ∈ s.toList))

/-- The set without members. -/
def empty : TagSet := ⟨[], .nil⟩

instance : Inhabited TagSet := ⟨empty⟩

/-- The number of members. -/
def size (s : TagSet) : Nat := s.toList.length

/-- Puts a tag into its place in an increasing list. -/
def place (tag : String) : List String → List String
  | [] => [tag]
  | t :: ts => if precedes tag t then tag :: t :: ts else if tag = t then t :: ts else t :: place tag ts

@[simp] theorem mem_place {tag x : String} {ts : List String} :
    x ∈ place tag ts ↔ x = tag ∨ x ∈ ts := by
  induction ts with
  | nil => simp [place]
  | cons t ts ih =>
    by_cases lt : precedes tag t = true
    · simp [place, lt]
    · by_cases eq : tag = t
      · simp [place, eq, Text.precedes_irrefl]
      · simp [place, lt, eq, ih, or_left_comm]

theorem place_increasing {tag : String} {ts : List String}
    (h : ts.Pairwise fun s t => precedes s t = true) :
    (place tag ts).Pairwise fun s t => precedes s t = true := by
  induction h with
  | nil => simp [place]
  | @cons t ts least rest ih =>
    by_cases lt : precedes tag t = true
    · simp only [place, lt, if_true]
      refine .cons ?_ (.cons least rest)
      intro x hx
      rcases List.mem_cons.1 hx with rfl | hx
      · exact lt
      · exact Text.precedes_trans lt (least x hx)
    · by_cases eq : tag = t
      · simpa [place, eq, Text.precedes_irrefl] using ⟨least, rest⟩
      · simp only [place, lt, eq, if_false]
        refine .cons ?_ ih
        intro x hx
        rcases mem_place.1 hx with rfl | hx
        · refine Decidable.byContradiction fun notLt => eq ?_
          exact Text.eq_of_not_precedes (by simpa using lt) (by simpa using notLt)
        · exact least x hx

/-- The set with the tag. -/
def insert (s : TagSet) (tag : String) : TagSet := ⟨place tag s.toList, place_increasing s.increasing⟩

/-- The set without the tag. -/
def erase (s : TagSet) (tag : String) : TagSet :=
  ⟨s.toList.filter (· ≠ tag), s.increasing.filter _⟩

@[simp] theorem mem_insert {s : TagSet} {tag x : String} : x ∈ s.insert tag ↔ x = tag ∨ x ∈ s :=
  mem_place

@[simp] theorem mem_erase {s : TagSet} {tag x : String} : x ∈ s.erase tag ↔ x ∈ s ∧ x ≠ tag := by
  show x ∈ s.toList.filter _ ↔ x ∈ s.toList ∧ x ≠ tag
  simp [List.mem_filter]

/-- The set with the given members. -/
def ofList (tags : List String) : TagSet := tags.foldl insert empty

/-- Adds a tag; the flag says whether the set changed. -/
def add (s : TagSet) (tag : String) : TagSet × Bool :=
  if tag ∈ s then (s, false) else (s.insert tag, true)

/-- Removes a tag; the flag says whether the set changed. -/
def remove (s : TagSet) (tag : String) : TagSet × Bool :=
  if tag ∈ s then (s.erase tag, true) else (s, false)

/-- Adds, removes or toggles a tag; the flag says whether the set changed. -/
def apply (s : TagSet) (tag : String) : Manipulation → TagSet × Bool
  | .add => s.add tag
  | .remove => s.remove tag
  | .invert => if tag ∈ s then s.remove tag else s.add tag

end TagSet

/-! ### Tags in text -/

/-- Tags as an author writes them: one text with commas, or a list of such texts. -/
inductive TagText where
  | line (text : String)
  | entries (texts : List String)
deriving Repr, DecidableEq

/-- What stands before a character since the last comma: no tag, the end of a tag, or blanks after
a tag. -/
inductive TagBefore where
  | nothing
  | tag
  | gap
deriving Repr, DecidableEq

/-- Whether blanks stand between two characters of tags with no comma among them. -/
def hasGap : TagBefore → List Char → Bool
  | _, [] => false
  | before, c :: rest =>
    if c = ',' then hasGap .nothing rest
    else if Text.isBlank c then
      match before with
      | .nothing => hasGap .nothing rest
      | .tag | .gap => hasGap .gap rest
    else
      match before with
      | .gap => true
      | .nothing | .tag => hasGap .tag rest

/-- The tags of one text. A blank inside a tag is a comma that was forgotten. -/
def TagText.parseLine (text : String) : Except CompileError (List String) :=
  if hasGap .nothing text.toList then .error (.invalidExpression text .blankInTag)
  else .ok ((Text.trimmedParts ',' text.toList).map String.ofList)

/-- The texts to read. -/
def TagText.lines : TagText → List String
  | .line text => [text]
  | .entries texts => texts

/-- Reads a set of tags; where nothing is written there are none. -/
def TagSet.parse (written : Option TagText) : Except CompileError TagSet :=
  match written with
  | none => .ok .empty
  | some text => do return .ofList (← text.lines.mapM TagText.parseLine).flatten

end Narrative
