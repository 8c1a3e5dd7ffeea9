/-
Module: Narrative.Passage
Purpose: Passages of a story: text that is told under conditions, with parts that may be told after
  it.
Main exports: Passage, Node, Harvest, Passage.isAvailable, Node.tell, Node.tellChain
-/
import Narrative.Impact
import Narrative.Requirement.Basic
import Narrative.Tally
import Narrative.World.Model

namespace Narrative

/-- A passage: its text, the requirement and the impacts, how it depends on the passage before it,
how often it was told and may be told, and the number of the entity that it belongs to. A limit of
zero or less is none. -/
structure Passage where
  description? : Option String := none
  requirement? : Option Requirement := none
  impacts : List Impact := []
  correlation : Correlation := .none
  count : Tally := .number 0
  limit : Tally := .number 0
  owner : Nat := 0
deriving Repr, DecidableEq

/-- A passage with the passages that are parts of its description. -/
structure Node where
  passage : Passage
  descriptors : List Node
deriving Repr

instance : Inhabited Node := ⟨⟨{}, []⟩⟩

namespace Passage

/-- Whether the passage has been told as often as it may be. -/
def exhausted (passage : Passage) : Bool :=
  passage.limit.value > 0 && passage.count.value ≥ passage.limit.value

/-- Whether the passage may be told. Its requirement is asked for only if it is not exhausted. -/
def isAvailable {m : Type → Type} [Monad m] (passage : Passage) (has : Reference → m Bool) :
    m Bool :=
  if passage.exhausted then pure false
  else
    match passage.requirement? with
    | none => pure true
    | some requirement => requirement.evaluate has

/-- The text with the number of earlier tellings in front, so that markup can go by it. The number has
to be one that can be written. -/
def lead (passage : Passage) : Except EvaluationError String :=
  match passage.description? with
  | none => .ok ""
  | some description =>
    match passage.count.written? with
    | some count => .ok ("[p]\x7b" ++ count ++ "\x7d" ++ description)
    | none => .error .unwritableCount

/-- The passage after it was told; the flag says whether the telling counts. -/
def told (counts : Bool) (passage : Passage) : Passage :=
  if counts then { passage with count := passage.count.next } else passage

/-- Whether the passage is told only if the one before it is not. -/
def isOtherwise (passage : Passage) : Bool := passage.correlation = .otherwise

end Passage

/-- What a telling brings: pieces of text and impacts, in order. -/
structure Harvest where
  parts : List String := []
  impacts : List Impact := []
deriving Repr, DecidableEq

namespace Harvest

/-- One harvest after the other. -/
def append (first second : Harvest) : Harvest :=
  ⟨first.parts ++ second.parts, first.impacts ++ second.impacts⟩

instance : Append Harvest := ⟨append⟩

/-- The whole text. -/
def text (harvest : Harvest) : String := String.join harvest.parts

/-- What a passage brings by itself. -/
def ofPassage (passage : Passage) : Except EvaluationError Harvest :=
  passage.lead.map fun text => ⟨[text], passage.impacts⟩

end Harvest

namespace Node

mutual

/-- Tells a node that may be told: its own text comes first, then its descriptors. The node comes
back with the tellings counted, also if a requirement could not be decided on the way. -/
def tell (has : Reference → Except EvaluationError Bool) (counts : Bool) :
    Node → Node × Except EvaluationError Harvest
  | ⟨passage, descriptors⟩ =>
    match Harvest.ofPassage passage with
    | .error fault => (⟨passage, descriptors⟩, .error fault)
    | .ok own =>
      let (descriptors, outcome) := tellChain has counts false descriptors
      (⟨passage.told counts, descriptors⟩, outcome.map (own ++ ·))

/-- Tells the descriptors that may be told. One that is told only if the one before it is not is
left out after a telling, without asking for its requirement, and leaves out those like it that
follow. The flag says whether there was a telling. -/
def tellChain (has : Reference → Except EvaluationError Bool) (counts : Bool) :
    (told : Bool) → List Node → List Node × Except EvaluationError Harvest
  | _, [] => ([], .ok {})
  | told, node :: rest =>
    if told && node.passage.isOtherwise then
      let (rest, outcome) := tellChain has counts true rest
      (node :: rest, outcome)
    else
      match node.passage.isAvailable has with
      | .error fault => (node :: rest, .error fault)
      | .ok false =>
        let (rest, outcome) := tellChain has counts false rest
        (node :: rest, outcome)
      | .ok true =>
        match tell has counts node with
        | (node, .error fault) => (node :: rest, .error fault)
        | (node, .ok harvest) =>
          let (rest, outcome) := tellChain has counts true rest
          (node :: rest, outcome.map (harvest ++ ·))

end

/-- The node at a path of positions among descriptors. -/
def descriptor? : List Nat → Node → Option Node
  | [], node => some node
  | position :: path, node =>
    match node.descriptors[position]? with
    | some inner => descriptor? path inner
    | none => none

/-- The node with the one at a path changed. -/
def modify (change : Node → Node) : List Nat → Node → Node
  | [], node => change node
  | position :: path, node =>
    { node with descriptors := node.descriptors.modify position (modify change path) }

end Node

end Narrative
