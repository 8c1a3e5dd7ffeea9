/-
Module: Narrative.Yaml.Node.Basic
Purpose: The nodes of a document.
Main exports: Tag, Tag.ofUri, Tag.uri, Content, Node, Graph
-/
import Narrative.Yaml.Cursor

namespace Narrative.Yaml

/-- What a node is tagged as. -/
inductive Tag where
  | null
  | bool
  | int
  | float
  | binary
  | timestamp
  | omap
  | pairs
  | set
  | text
  | sequence
  | mapping
  | merge
  | default
  | other (uri : String)
deriving Repr, DecidableEq

namespace Tag

/-- The address that the common tags begin with. -/
def commonAddress : String := "tag:yaml.org,2002:"

/-- The common tags by their names. -/
def common : List (String × Tag) :=
  [("null", .null), ("bool", .bool), ("int", .int), ("float", .float), ("binary", .binary),
    ("timestamp", .timestamp), ("omap", .omap), ("pairs", .pairs), ("set", .set), ("str", .text),
    ("seq", .sequence), ("map", .mapping), ("merge", .merge), ("value", .default)]

/-- The tag of an address. -/
def ofUri (uri : String) : Tag :=
  match common.find? fun (name, _) => commonAddress ++ name = uri with
  | some (_, tag) => tag
  | none => .other uri

/-- The address of a tag. -/
def uri : Tag → String
  | .other uri => uri
  | tag =>
    match common.find? fun (_, known) => known = tag with
    | some (name, _) => commonAddress ++ name
    | none => commonAddress

end Tag

/-- What a node holds: the text of a scalar, or the numbers of the nodes in a collection. -/
inductive Content where
  | scalar (text : String)
  | sequence (items : List Nat)
  | mapping (entries : List (Nat × Nat))
deriving Repr, DecidableEq

/-- What kind of content it is, in words. -/
def Content.kindName : Content → String
  | .scalar _ => "scalar"
  | .sequence _ => "sequence"
  | .mapping _ => "mapping"

/-- A node of a document, with its tag and the place where it begins. -/
structure Node where
  tag : Tag
  content : Content
  mark : Mark
deriving Repr

instance : Inhabited Node := ⟨⟨.null, .scalar "", default⟩⟩

namespace Node

/-- What kind of node it is, in words. -/
def kindName (node : Node) : String := node.content.kindName

/-- The scalar that stands where nothing is written. -/
def absent (mark : Mark) : Node := ⟨.null, .scalar "", mark⟩

end Node

/-- The nodes of a document by their numbers. A node that is named by aliases belongs to several
collections, and may be within itself. -/
abbrev Graph := Array Node

/-- The node with a number. -/
def Graph.node (graph : Graph) (number : Nat) : Node := graph[number]?.getD default

end Narrative.Yaml
