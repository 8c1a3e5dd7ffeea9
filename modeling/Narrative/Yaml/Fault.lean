/-
Module: Narrative.Yaml.Fault
Purpose: What can be wrong with a document.
Main exports: Complaint, Complaint.message, Fault, Fault.message
-/
import Narrative.Text.Quoted
import Narrative.Yaml.Cursor

namespace Narrative.Yaml

/-- A complaint about a place in a document, with what was being read there and since where. -/
structure Complaint where
  context? : Option String
  since? : Option Mark
  problem : String
  mark : Mark
deriving Repr, DecidableEq

namespace Complaint

/-- A complaint without more. -/
def plain (problem : String) (mark : Mark) : Complaint := ⟨none, none, problem, mark⟩

/-- A complaint in the course of something that began at a place. -/
def during (context : String) (since : Mark) (problem : String) (mark : Mark) : Complaint :=
  ⟨some context, some since, problem, mark⟩

/-- The complaint for the author of the document. The earlier place is left out if it is the place
of the complaint. -/
def message (complaint : Complaint) (document : List Char) : String :=
  let since := (complaint.since?.filter fun mark =>
    mark.line ≠ complaint.mark.line || mark.column ≠ complaint.mark.column).map (·.show document)
  "\n".intercalate (complaint.context?.toList ++ since.toList ++
    [complaint.problem, complaint.mark.show document])

end Complaint

/-- A character as it is shown in a complaint; the end of the document is shown as the character
zero. -/
def shown (c : Option Char) : String := Text.quote ((c.getD (Char.ofNat 0)).toString)

/-- Why a scalar is not what its tag says: its text is no value of the type, a number has no
characters, a word is no truth value, a text is not even shaped like a date, a date is named by a
mapping, the code of a character is no number of 32 bits, or the first of the parts in base sixty is
worth more than any number. -/
inductive ScalarFault where
  | invalid (message : String)
  | emptyNumber
  | unknownTruth (word : String)
  | notADate
  | mappedDate
  | hugeCode
  | hugeBase
deriving Repr, DecidableEq

/-- The fault for the author of the document. -/
def ScalarFault.message : ScalarFault → String
  | .invalid message => message
  | .emptyNumber => "number without digits"
  | .unknownTruth word => "no truth value: " ++ word
  | .notADate => "no date"
  | .mappedDate => "no text of a date"
  | .hugeCode => "no character code"
  | .hugeBase => "too many parts"

/-- What is wrong with a document: a character that no document may hold, a mistake at a place, a
scalar that is not what its tag says, or mappings that name one another without end. -/
inductive Fault where
  | unreadable (code position : Nat)
  | misplaced (complaint : Complaint)
  | scalar (fault : ScalarFault)
  | endless
deriving Repr, DecidableEq

/-- The fault for the author of the document. -/
def Fault.message (document : List Char) : Fault → String
  | .unreadable code position =>
    "unacceptable character #x" ++ String.ofList (Text.hexDigits 4 code) ++
      ": special characters are not allowed\n  in \"<unicode string>\", position " ++
      toString position
  | .misplaced complaint => complaint.message document
  | .scalar fault => fault.message
  | .endless => "no end of the mappings that name a scalar"

end Narrative.Yaml
