/-
Module: Narrative.Script
Purpose: Scripts of commands, in the folder beside the file of a world.
Main exports: Scripts, ScriptFault, Scripts.locate, Scripts.read, scriptLines
-/
import Narrative.Path
import Narrative.Text.Blank
import Narrative.Text.Utf8

namespace Narrative

/-- The scripts folder: its path as it is shown, the components of its full path, and the bytes of
the files in it, each with the components of its path from there. -/
structure Scripts where
  folder : Path
  base : List String
  files : List (List String × List Nat)
deriving Repr

/-- Why a script cannot be run: its path has no name, it contains a null character, the file cannot
be read or is no text, or too many scripts are running. -/
inductive ScriptFault where
  | noName (path : Path)
  | nullCharacter
  | unreadable (path : Path) (fault : FileFault)
  | notText (fault : Text.Utf8Fault)
  | tooDeep
deriving Repr, DecidableEq

/-- The suffix of scripts. -/
def scriptSuffix : String := ".txt"

/-- The greatest number of bytes in a component of a path. -/
def maxNameLength : Nat := 255

/-- The greatest number of bytes in a whole path. -/
def maxPathLength : Nat := 4095

/-- A script that a name stands for: its path as it is shown, and the components of its full path. -/
structure ScriptFile where
  path : Path
  full : List String
deriving Repr, DecidableEq

namespace Scripts

/-- The file that the name of a script stands for; there is none if it lies outside the folder. -/
def locate (scripts : Scripts) (name : String) : Except ScriptFault (Option ScriptFile) :=
  let path := scripts.folder ++ Path.parse name
  let full := Path.mk "/" scripts.base ++ Path.parse name
  match path.withSuffix? scriptSuffix, full.withSuffix? scriptSuffix with
  | some path, some full =>
    if full.parts.any (·.toList.contains '\x00') then .error .nullCharacter
    else if scripts.base.isPrefixOf (resolveDots full.parts) then .ok (some ⟨path, full.parts⟩)
    else .ok none
  | _, _ => .error (.noName path)

/-- Whether a full path is that of a folder that is known. -/
def isFolder (scripts : Scripts) (full : List String) : Bool :=
  full.isPrefixOf scripts.base ||
    scripts.files.any fun (parts, _) =>
      full.isPrefixOf (scripts.base ++ parts) && full ≠ scripts.base ++ parts

/-- The bytes of the file at the end of a way through folders. -/
def bytesAt (scripts : Scripts) (here : List String) :
    List String → Except FileFault (List Nat)
  | [] =>
    if scripts.isFolder here then .error .folder
    else
      match scripts.files.find? fun (parts, _) => scripts.base ++ parts = here with
      | some (_, bytes) => .ok bytes
      | none => .error .missing
  | part :: rest =>
    if !scripts.isFolder here then .error .missing
    else if maxNameLength < part.utf8ByteSize then .error .nameTooLong
    else scripts.bytesAt (if part = ".." then here.dropLast else here ++ [part]) rest

/-- The text of a script, if there is such a file. -/
def read (scripts : Scripts) (file : ScriptFile) : Except ScriptFault (Option (List Char)) :=
  let found :=
    if maxPathLength < (Path.mk "/" file.full).text.utf8ByteSize then .error .nameTooLong
    else scripts.bytesAt [] file.full
  match found with
  | .error .missing => .ok none
  | .error fault => .error (.unreadable file.path fault)
  | .ok bytes =>
    match Text.decodeUtf8 bytes with
    | .error fault => .error (.notText fault)
    | .ok text => .ok (some (Text.unifyLineEnds text))

end Scripts

/-- The commands of a script: its lines, without the blanks around them. Empty lines and lines that
begin with a number sign are no commands. -/
def scriptLines (text : List Char) : List String :=
  let lines := (text.splitOn '\n').map Text.trim
  (lines.filter fun line => !line.isEmpty && line.head? ≠ some '#').map String.ofList

end Narrative
