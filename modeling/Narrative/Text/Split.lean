/-
Module: Narrative.Text.Split
Purpose: Words, trimmed parts, enumerations and quoted names in a line of text.
Main exports: words, commaParts, splitAround, trimmedParts, enumerate, unquote
-/
import Narrative.Text.Blank

namespace Narrative.Text

/-- The maximal runs without blanks. -/
def words (cs : List Char) : List (List Char) :=
  (cs.splitOnP isBlank).filter fun word => !word.isEmpty

/-- The rest of the text after `mark`, if the text begins with it. -/
def dropMark? : List Char → List Char → Option (List Char)
  | [], cs => some cs
  | _ :: _, [] => none
  | m :: mark, c :: cs => if m = c then dropMark? mark cs else none

theorem dropMark?_length {mark cs rest : List Char} (h : dropMark? mark cs = some rest) :
    cs.length = mark.length + rest.length := by
  fun_induction dropMark? mark cs with
  | case1 => simp_all
  | case2 => simp at h
  | case3 m mark cs ih =>
    have := ih h
    simp only [List.length_cons]
    omega
  | case4 => simp at h

/-- Cuts the text at each occurrence of the mark, from left to right; `part` holds the characters of
the part under way, the last first. The mark is not empty. -/
def splitAroundFrom (first : Char) (mark : List Char) (part : List Char) :
    List Char → List (List Char)
  | [] => [part.reverse]
  | c :: cs =>
    match h : dropMark? (first :: mark) (c :: cs) with
    | some rest =>
      have := dropMark?_length h
      part.reverse :: splitAroundFrom first mark [] rest
    | none => splitAroundFrom first mark (c :: part) cs
termination_by cs => cs.length
decreasing_by
  all_goals
    simp only [List.length_cons] at *
    omega

/-- The parts of the text between the occurrences of the mark, none for an empty mark. -/
def splitAround? (mark text : String) : Option (List String) :=
  match mark.toList with
  | [] => none
  | first :: rest => some ((splitAroundFrom first rest [] text.toList).map String.ofList)

/-- The parts between the given character, trimmed, without the blank ones. -/
def trimmedParts (separator : Char) (cs : List Char) : List (List Char) :=
  ((cs.splitOn separator).map trim).filter fun part => !part.isEmpty

/-- The parts between the occurrences of the mark, trimmed, without the blank ones. -/
def trimmedParts? (mark text : String) : Option (List String) :=
  (splitAround? mark text).map fun parts =>
    (parts.map fun part => String.ofList (trim part.toList)).filter fun part => !part.isEmpty

/-- An enumeration in words: commas between the entries, and the given word before the last. -/
def enumerate (entries : List String) (last : String) : String :=
  match entries.reverse with
  | [] => ""
  | [only] => only
  | final :: before => ", ".intercalate before.reverse ++ " " ++ last ++ " " ++ final

/-- The text without the quotes around it, if it stands between two equal ones. -/
def unquote (cs : List Char) : List Char :=
  match cs with
  | [] => []
  | first :: rest =>
    if (first = '\'' || first = '"') && rest.getLast? = some first then rest.dropLast else cs

end Narrative.Text
