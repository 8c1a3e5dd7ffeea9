/-
Module: Narrative.Yaml.Value.OfNodes
Purpose: The values of nodes. A collection has its number before what is in it is looked at, so it
  may be within itself.
Main exports: Making, Making.valueOf, Document.ofNodes
-/
import Narrative.Yaml.Node.Merge
import Narrative.Yaml.Node.OfTokens
import Narrative.Yaml.Scalar.Reading
import Narrative.Yaml.Value.Basic

namespace Narrative.Yaml

/-! ### Scalars -/

namespace Graph

/-- Complains about a node. -/
def complain {α : Type} (problem : String) (node : Node) : Except Fault α :=
  .error (.misplaced (.plain problem node.mark))

/-- The text that a scalar is read from; a mapping may name it under the key of default values. The
number bounds how many mappings are asked. -/
def scalarText (graph : Graph) : (fuel : Nat) → (number : Nat) → Except Fault String
  | 0, _ => .error .endless
  | fuel + 1, number =>
    let node := graph.node number
    let refuse : Except Fault String :=
      complain ("expected a scalar node, but found " ++ node.kindName) node
    match node.content with
    | .scalar text => .ok text
    | .sequence _ => refuse
    | .mapping entries =>
      match entries.find? fun (key, _) => (graph.node key).tag = .default with
      | some (_, value) => graph.scalarText fuel value
      | none => refuse

/-- The value of a node with a scalar's tag, none for the other tags. -/
def scalar? (graph : Graph) (number : Nat) : Option (Except Fault Scalar) :=
  let node := graph.node number
  let text := graph.scalarText (graph.size + 1) number
  let read (reading : String → Reading Scalar) : Option (Except Fault Scalar) :=
    some do (reading (← text)).mapError .scalar
  match node.tag with
  | .null => read fun _ => .ok .null
  | .bool => read fun text => (readBool text).map .bool
  | .int => read fun text => (readInt text).map .int
  | .float => read (readFloat number)
  | .timestamp =>
    match node.content with
    | .scalar _ => read readTimestamp
    | _ => read fun _ => .error .mappedDate
  | .text => read fun text => .ok (.text text)
  | .binary => some do
    match readBinary (← text) with
    | .ok bytes => .ok (.bytes bytes)
    | .error problem => complain problem node
  | _ => none

end Graph

/-! ### Collections -/

/-- What is known while the values of nodes are made: the nodes, the values of those that have been
met, and the nodes of the collections, by the numbers of the collections. -/
structure Making where
  graph : Graph
  values : Array (Option Value)
  sources : Array Nat

/-- A step of making values. -/
abbrev Make := StateT Making (Except Fault)

namespace Make

/-- The node with a number. -/
def node (number : Nat) : Make Node := return (← get).graph.node number

/-- Notes the value of a node. -/
def note (number : Nat) (value : Value) : Make Value :=
  modifyGet fun making =>
    (value, { making with values := making.values.setIfInBounds number (some value) })

/-- The value of a node. A scalar is read at once; a collection is only given a number. -/
def valueOf (number : Nat) : Make Value := do
  let making ← get
  match making.values[number]?.join with
  | some value => return value
  | none =>
    match making.graph.scalar? number with
    | some scalar => note number (.scalar (← scalar))
    | none =>
      let node ← node number
      match node.tag with
      | .sequence | .mapping | .set | .omap | .pairs =>
        modify fun making => { making with sources := making.sources.push number }
        note number (.collection making.sources.size)
      | tag =>
        Graph.complain
          ("could not determine a constructor for the tag " ++ Text.quote tag.uri) node

/-- The value of a key of the mapping that begins at a place. -/
def keyOf (since : Mark) (number : Nat) : Make Scalar := do
  match ← valueOf number with
  | .scalar key => return key
  | .collection _ =>
    throw (.misplaced (.during "while constructing a mapping" since "found unhashable key"
      (← node number).mark))

/-- The entries of a mapping with those that it merges. -/
def entriesOf (number : Nat) : Make (List (Scalar × Value)) := do
  match (← node number).content with
  | .mapping _ =>
    let graph ← (← get).graph.merged number
    modify fun making => { making with graph }
    let since := (graph.node number).mark
    (graph.entries number).foldlM (fun made (key, value) => do
      return putEntry (← keyOf since key) (← valueOf value) made) []
  | other => Graph.complain ("expected a mapping node, but found " ++ other.kindName) (← node number)

/-- The pairs of a sequence of mappings that have one entry each. -/
def pairsOf (context : String) (number : Nat) : Make (List (Value × Value)) := do
  let node ← node number
  let refuse {α : Type} (problem : String) (found : Node) : Make α :=
    throw (.misplaced (.during context node.mark problem found.mark))
  match node.content with
  | .sequence items =>
    items.mapM fun item => do
      let inner ← Make.node item
      match inner.content with
      | .mapping [(key, value)] => return (← valueOf key, ← valueOf value)
      | .mapping entries =>
        refuse ("expected a single mapping item, but found " ++ toString entries.length ++ " items")
          inner
      | other => refuse ("expected a mapping of length 1, but found " ++ other.kindName) inner
  | other => refuse ("expected a sequence, but found " ++ other.kindName) node

/-- What is in the collection that a node stands for. -/
def collectionOf (number : Nat) : Make Collection := do
  let node ← node number
  match node.tag with
  | .mapping => return .mapping (← entriesOf number)
  | .set => return .set ((← entriesOf number).map (·.1))
  | .omap => return .pairs (← pairsOf "while constructing an ordered map" number)
  | .pairs => return .pairs (← pairsOf "while constructing pairs" number)
  | _ =>
    match node.content with
    | .sequence items => return .list (← items.mapM valueOf)
    | other => Graph.complain ("expected a sequence node, but found " ++ other.kindName) node

/-- Looks into the collections in the order of their numbers, until there are no more. New ones may
turn up on the way; the number bounds how many there are. -/
def collections : (fuel : Nat) → (made : Array Collection) → Make (Array Collection)
  | 0, made => return made
  | fuel + 1, made => do
    match (← get).sources[made.size]? with
    | none => return made
    | some number => collections fuel (made.push (← collectionOf number))

end Make

/-- The document that nodes stand for. -/
def Document.ofNodes (composition : Composition) : Except Fault Document := do
  let making : Making :=
    ⟨composition.nodes, Array.replicate composition.nodes.size none, #[]⟩
  let make : Make Document := do
    let root ← Make.valueOf composition.root
    return ⟨root, ← Make.collections (composition.nodes.size + 1) #[]⟩
  (·.1) <$> make.run making

end Narrative.Yaml
