/-
Module: Narrative.Path
Purpose: Paths of files, and why a file cannot be read.
Main exports: Path, Path.parse, Path.text, Path.withSuffix?, resolveDots, FileFault
-/
import Narrative.Text.Quoted

namespace Narrative

/-- A path: the slashes that it begins with (none, one or two), and its components. -/
structure Path where
  root : String
  parts : List String
deriving Repr, DecidableEq

namespace Path

/-- The slashes that count at the beginning of a path: exactly two are kept, more are one. -/
def rootOf (slashes : Nat) : String :=
  match slashes with
  | 0 => ""
  | 2 => "//"
  | _ => "/"

/-- Reads a path. Empty components and single points mean nothing. -/
def parse (text : String) : Path where
  root := rootOf (text.toList.takeWhile (· = '/')).length
  parts := ((text.toList.splitOn '/').map String.ofList).filter fun part =>
    part ≠ "" && part ≠ "."

/-- The path as it is written; an empty one is a point. -/
def text (path : Path) : String :=
  if path.root = "" && path.parts.isEmpty then "."
  else path.root ++ "/".intercalate path.parts

/-- Whether the path begins at the root. -/
def isAbsolute (path : Path) : Bool := path.root ≠ ""

/-- A path seen from another one. -/
def append (path other : Path) : Path :=
  if other.isAbsolute then other else { path with parts := path.parts ++ other.parts }

instance : Append Path := ⟨append⟩

/-- The path of the folder. -/
def parent (path : Path) : Path := { path with parts := path.parts.dropLast }

/-- A name without its suffix. The last point begins the suffix, unless it is the first or the last
character of the name. -/
def stem (name : List Char) : List Char :=
  let suffix := (name.reverse.takeWhile (· ≠ '.')).reverse
  let before := name.take (name.length - suffix.length - 1)
  if suffix.isEmpty || suffix.length = name.length || before.isEmpty then name else before

/-- The path with another suffix, if it has a last component. -/
def withSuffix? (path : Path) (suffix : String) : Option Path :=
  path.parts.getLast?.map fun name =>
    { path with parts := path.parts.dropLast ++ [String.ofList (stem name.toList) ++ suffix] }

end Path

/-- The components that are left when each pair of points has taken away the one before it. -/
def resolveDots (parts : List String) : List String :=
  parts.foldl (fun resolved part => if part = ".." then resolved.dropLast else resolved ++ [part]) []

/-- Why a file cannot be read. -/
inductive FileFault where
  | missing
  | denied
  | folder
  | nameTooLong
deriving Repr, DecidableEq

namespace FileFault

/-- The number of the fault. -/
def code : FileFault → Nat
  | .missing => 2
  | .denied => 13
  | .folder => 21
  | .nameTooLong => 36

/-- The fault in words. -/
def text : FileFault → String
  | .missing => "No such file or directory"
  | .denied => "Permission denied"
  | .folder => "Is a directory"
  | .nameTooLong => "File name too long"

/-- The message about a path. -/
def message (fault : FileFault) (path : String) : String :=
  "[Errno " ++ toString fault.code ++ "] " ++ fault.text ++ ": " ++ Text.quote path

end FileFault

end Narrative
