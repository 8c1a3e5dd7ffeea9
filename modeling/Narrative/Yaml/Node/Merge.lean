/-
Module: Narrative.Yaml.Node.Merge
Purpose: Mappings that take in the entries of other mappings.
Main exports: Merging, Merging.resolve, Graph.merged
-/
import Narrative.Yaml.Node.Basic
import Narrative.Yaml.Fault

namespace Narrative.Yaml

/-- An entry of a mapping: the numbers of the nodes of its key and its value. -/
abbrev Entry := Nat × Nat

namespace Graph

/-- The entries of a mapping. -/
def entries (graph : Graph) (number : Nat) : List Entry :=
  match (graph.node number).content with
  | .mapping entries => entries
  | _ => []

/-- The graph with other entries in a mapping. -/
def setEntries (graph : Graph) (number : Nat) (entries : List Entry) : Graph :=
  graph.modify number fun node => { node with content := .mapping entries }

/-- What the first merge key among entries stands for, and the other entries. -/
def takeMerge? (graph : Graph) : List Entry → Option (Nat × List Entry)
  | [] => none
  | (key, value) :: rest =>
    if (graph.node key).tag = .merge then some (value, rest)
    else (graph.takeMerge? rest).map fun (found, rest) => (found, (key, value) :: rest)

/-- The graph with keys of default values among the entries taken for texts. -/
def plainKeys (graph : Graph) (entries : List Entry) : Graph :=
  (entries.filter fun (key, _) => (graph.node key).tag = .default).foldl (fun graph (key, _) =>
    graph.modify key fun node => { node with tag := .text }) graph

end Graph

/-- A step of merging. -/
abbrev Merging := StateT Graph (Except Fault)

namespace Merging

/-- Complains about what is merged into the mapping that begins at a place. -/
def refuse {α : Type} (since : Mark) (expected : String) (found : Node) : Merging α :=
  throw (.misplaced (.during "while constructing a mapping" since
    ("expected " ++ expected ++ " for merging, but found " ++ found.kindName) found.mark))

mutual

/-- Replaces the merge keys of a mapping by the entries that they stand for, which come before its
own, and so do those mappings that are merged. A mapping that is merged into itself brings what it
has at that moment. The number bounds the steps: each uses up a merge key. -/
def resolve : (fuel : Nat) → (number : Nat) → Merging Unit
  | 0, _ => return
  | fuel + 1, number => do
    let merged ← gather fuel number
    let own := (← get).entries number
    modify (·.plainKeys own)
    if !merged.isEmpty then modify (·.setEntries number (merged ++ own))

/-- Takes out the merge keys of a mapping, one after the other, and gives what they stand for. -/
def gather : (fuel : Nat) → (number : Nat) → Merging (List Entry)
  | 0, _ => return []
  | fuel + 1, number => do
    let graph ← get
    match graph.takeMerge? (graph.entries number) with
    | none => return []
    | some (source, rest) =>
      modify (·.setEntries number rest)
      let brought ← bring fuel (graph.node number).mark source
      return brought ++ (← gather fuel number)

/-- The entries that a merged node brings. Between the mappings of a list, the first has the last
word. -/
def bring : (fuel : Nat) → (since : Mark) → (source : Nat) → Merging (List Entry)
  | 0, _, _ => return []
  | fuel + 1, since, source => do
    let node := (← get).node source
    match node.content with
    | .mapping _ =>
      resolve fuel source
      return (← get).entries source
    | .sequence items =>
      let blocks ← items.mapM fun item => do
        let node := (← get).node item
        match node.content with
        | .mapping _ =>
          resolve fuel item
          return (← get).entries item
        | _ => refuse since "a mapping" node
      return blocks.reverse.flatten
    | .scalar _ => refuse since "a mapping or list of mappings" node

end

end Merging

namespace Graph

/-- The number of entries in all mappings. -/
def entryCount (graph : Graph) : Nat :=
  graph.foldl (fun count node =>
    match node.content with
    | .mapping entries => count + entries.length
    | _ => count) 0

/-- The graph after the merge keys of a mapping have been resolved. -/
def merged (graph : Graph) (number : Nat) : Except Fault Graph :=
  let isSpecial (entry : Entry) : Bool :=
    (graph.node entry.1).tag = .merge || (graph.node entry.1).tag = .default
  if (graph.entries number).any isSpecial then
    (·.2) <$> (Merging.resolve (3 * graph.entryCount + 3) number).run graph
  else .ok graph

end Graph

end Narrative.Yaml
