/-
Module: Narrative.Yaml.Node.OfTokens
Purpose: The nodes that the tokens of a document build. An alias stands for the node that it names.
Main exports: Reader, Composition, Composition.ofTokens?
-/
import Narrative.Yaml.Node.Basic
import Narrative.Yaml.Scalar.Shape
import Narrative.Yaml.Token.Stream

namespace Narrative.Yaml

/-- What is left of a document while its nodes are built: the tokens and the fault that follows them,
the nodes so far, the numbers of those with anchors, and the handles of tags. -/
structure Reader where
  tokens : List Token
  fault? : Option Fault
  nodes : Graph
  anchors : List (String × Nat)
  handles : List (String × String)

/-- A step of building nodes. -/
abbrev Build := StateT Reader (Except Fault)

namespace Build

/-- Complains about a place. -/
def complain {α : Type} (complaint : Complaint) : Build α := throw (.misplaced complaint)

/-- The next token. The last token of a document without faults is never taken. -/
def peek : Build Token := do
  let reader ← get
  match reader.tokens, reader.fault? with
  | token :: _, _ => return token
  | [], some fault => throw fault
  | [], none => return ⟨.streamEnd, default, default⟩

/-- Takes the next token. -/
def take : Build Token := do
  let token ← peek
  modify fun reader => { reader with tokens := reader.tokens.tail }
  return token

/-- The kind of the next token. -/
def kind : Build TokenKind := return (← peek).kind

/-- Adds a node, and gives its number. -/
def add (node : Node) : Build Nat :=
  modifyGet fun reader => (reader.nodes.size, { reader with nodes := reader.nodes.push node })

/-- Adds a node where nothing is written. -/
def addAbsent (mark : Mark) : Build Nat := add (.absent mark)

/-- Adds a node with an anchor, which no other node may have. -/
def addNamed (anchor? : Option String) (node : Node) : Build Nat := do
  match anchor? with
  | none => add node
  | some name =>
    let reader ← get
    match reader.anchors.lookup name with
    | some first =>
      complain (.during ("found duplicate anchor " ++ Text.quote name ++ "; first occurrence")
        (reader.nodes.node first).mark "second occurrence" node.mark)
    | none =>
      let number ← add node
      modify fun reader => { reader with anchors := (name, number) :: reader.anchors }
      return number

/-- Gives a collection its content. -/
def complete (number : Nat) (content : Content) : Build Unit :=
  modify fun reader =>
    { reader with nodes := reader.nodes.modify number fun node => { node with content } }

/-! ### Properties of nodes -/

/-- What is written in front of a node: its anchor, its tag and where the tag stands, and where the
first of them begins. -/
structure Properties where
  anchor? : Option String := none
  tag? : Option (TagName × Mark) := none
  start? : Option Mark := none

/-- The anchor and the tag of the next node, in either order. -/
def properties : Build Properties := do
  match ← peek with
  | ⟨.anchor name, start, _⟩ =>
    let _ ← take
    match ← peek with
    | ⟨.tag tag, tagStart, _⟩ =>
      let _ ← take
      return ⟨some name, some (tag, tagStart), some start⟩
    | _ => return ⟨some name, none, some start⟩
  | ⟨.tag tag, start, _⟩ =>
    let _ ← take
    match ← peek with
    | ⟨.anchor name, _, _⟩ =>
      let _ ← take
      return ⟨some name, some (tag, start), some start⟩
    | _ => return ⟨none, some (tag, start), some start⟩
  | _ => return {}

/-- The address of the tag among properties, if there is one. A lone exclamation mark is none, but it
stands for itself in front of a plain scalar. -/
def address (properties : Properties) : Build (Option String) := do
  match properties.tag? with
  | none => return none
  | some (⟨none, suffix⟩, _) => return some suffix
  | some (⟨some handle, suffix⟩, tagStart) =>
    match (← get).handles.lookup handle with
    | some affix => return some (affix ++ suffix)
    | none =>
      complain (.during "while parsing a node" (properties.start?.getD tagStart)
        ("found undefined tag handle " ++ Text.quote handle) tagStart)

/-- The tag of a collection. -/
def collectionTag (usual : Tag) : Option String → Tag
  | none | some "!" => usual
  | some uri => .ofUri uri

/-- The tag of a scalar. -/
def scalarTag (style : ScalarStyle) (text : String) : Option String → Tag
  | none =>
    match style with
    | .plain => .ofPlain text
    | .marked => .text
  | some "!" => .ofPlain text
  | some uri => .ofUri uri

/-! ### Nodes -/

/-- The complaint that something else was found than what may stand in a collection. -/
def wrongToken {α : Type} (context : String) (since : Mark) (expected : String) : Build α := do
  let token ← peek
  complain (.during context since (expected ++ Text.quote token.kind.name) token.start)

/-- Whether the next token is one of the kinds. -/
def isNext (kinds : List TokenKind) : Build Bool := return kinds.contains (← kind)

mutual

/-- The number of the next node. A block may begin it where blocks are allowed, and entries without
indentation may follow a key. A collection has its number before what is in it. -/
def node : (fuel : Nat) → (block indentless : Bool) → Build Nat
  | 0, _, _ => addAbsent default
  | fuel + 1, block, indentless => do
    match ← peek with
    | ⟨.alias name, start, _⟩ =>
      let _ ← take
      match (← get).anchors.lookup name with
      | some found => return found
      | none => complain (.plain ("found undefined alias " ++ Text.quote name) start)
    | _ =>
      let properties ← properties
      let address? ← address properties
      let next ← peek
      let start := properties.start?.getD next.start
      let named := addNamed properties.anchor?
      let sequence (items : Build (List Nat)) : Build Nat := do
        let number ← named ⟨collectionTag .sequence address?, .sequence [], start⟩
        complete number (.sequence (← items))
        return number
      let mapping (entries : Build (List (Nat × Nat))) : Build Nat := do
        let number ← named ⟨collectionTag .mapping address?, .mapping [], start⟩
        complete number (.mapping (← entries))
        return number
      match next.kind with
      | .scalar style text =>
        let _ ← take
        let text := String.ofList text
        named ⟨scalarTag style text address?, .scalar text, start⟩
      | .flowSequenceStart =>
        sequence do
          let _ ← take
          flowItems fuel next.start true
      | .flowMappingStart =>
        mapping do
          let _ ← take
          flowEntries fuel next.start true
      | other =>
        if indentless && other == .blockEntry then sequence (indentlessItems fuel)
        else if block && other == .blockSequenceStart then
          sequence do
            let _ ← take
            blockItems fuel next.start
        else if block && other == .blockMappingStart then
          mapping do
            let _ ← take
            blockEntries fuel next.start
        else if properties.start?.isSome then
          named ⟨scalarTag .plain "" address?, .scalar "", start⟩
        else
          complain (.during ("while parsing a " ++ (if block then "block" else "flow") ++ " node")
            start ("expected the node content, but found " ++ Text.quote other.name) next.start)

/-- The items of a block sequence. -/
def blockItems : (fuel : Nat) → (since : Mark) → Build (List Nat)
  | 0, _ => return []
  | fuel + 1, since => do
    match ← kind with
    | .blockEntry =>
      let dash ← take
      let item ←
        if ← isNext [.blockEntry, .blockEnd] then addAbsent dash.stop
        else node fuel true false
      return item :: (← blockItems fuel since)
    | .blockEnd =>
      let _ ← take
      return []
    | _ => wrongToken "while parsing a block collection" since "expected <block end>, but found "

/-- The items of a sequence without indentation. -/
def indentlessItems : (fuel : Nat) → Build (List Nat)
  | 0 => return []
  | fuel + 1 => do
    match ← kind with
    | .blockEntry =>
      let dash ← take
      let item ←
        if ← isNext [.blockEntry, .key, .value, .blockEnd] then addAbsent dash.stop
        else node fuel true false
      return item :: (← indentlessItems fuel)
    | _ => return []

/-- What stands after the sign of a key or of a value in a block, if the sign is there. -/
def blockPart : (fuel : Nat) → (sign : TokenKind) → Build Nat
  | 0, _ => addAbsent default
  | fuel + 1, sign => do
    let token ← peek
    if token.kind == sign then
      let _ ← take
      if ← isNext [.key, .value, .blockEnd] then addAbsent token.stop
      else node fuel true true
    else addAbsent token.start

/-- The entries of a block mapping. -/
def blockEntries : (fuel : Nat) → (since : Mark) → Build (List (Nat × Nat))
  | 0, _ => return []
  | fuel + 1, since => do
    match ← kind with
    | .key =>
      let key ← blockPart fuel .key
      let value ← blockPart fuel .value
      return (key, value) :: (← blockEntries fuel since)
    | .blockEnd =>
      let _ ← take
      return []
    | _ => wrongToken "while parsing a block mapping" since "expected <block end>, but found "

/-- What stands after the sign of a key or of a value between brackets, if the sign is there and
something stands before the `ends`. -/
def flowPart : (fuel : Nat) → (sign : TokenKind) → (ends : List TokenKind) → Build Nat
  | 0, _, _ => addAbsent default
  | fuel + 1, sign, ends => do
    let token ← peek
    if token.kind == sign then
      let _ ← take
      if ← isNext ends then addAbsent token.stop
      else node fuel false false
    else addAbsent token.start

/-- The items of a sequence between brackets. An item with the sign of a key is a mapping of one
entry. -/
def flowItems : (fuel : Nat) → (since : Mark) → (first : Bool) → Build (List Nat)
  | 0, _, _ => return []
  | fuel + 1, since, first => do
    if ← isNext [.flowSequenceEnd] then
      let _ ← take
      return []
    if !first then
      if ← isNext [.flowEntry] then
        let _ ← take
      else
        wrongToken "while parsing a flow sequence" since "expected ',' or ']', but got "
    let token ← peek
    match token.kind with
    | .key =>
      let key ← flowPart fuel .key [.value, .flowEntry, .flowSequenceEnd]
      let value ← flowPart fuel .value [.flowEntry, .flowSequenceEnd]
      let item ← add ⟨.mapping, .mapping [(key, value)], token.start⟩
      return item :: (← flowItems fuel since false)
    | .flowSequenceEnd =>
      let _ ← take
      return []
    | _ =>
      let item ← node fuel false false
      return item :: (← flowItems fuel since false)

/-- The entries of a mapping between brackets. An entry without signs is a key without a value. -/
def flowEntries : (fuel : Nat) → (since : Mark) → (first : Bool) → Build (List (Nat × Nat))
  | 0, _, _ => return []
  | fuel + 1, since, first => do
    if ← isNext [.flowMappingEnd] then
      let _ ← take
      return []
    if !first then
      if ← isNext [.flowEntry] then
        let _ ← take
      else
        wrongToken "while parsing a flow mapping" since "expected ',' or '\x7d', but got "
    match ← kind with
    | .key =>
      let key ← flowPart fuel .key [.value, .flowEntry, .flowMappingEnd]
      let value ← flowPart fuel .value [.flowEntry, .flowMappingEnd]
      return (key, value) :: (← flowEntries fuel since false)
    | .flowMappingEnd =>
      let _ ← take
      return []
    | _ =>
      let key ← node fuel false false
      let value ← addAbsent (← peek).start
      return (key, value) :: (← flowEntries fuel since false)

end

/-! ### The document -/

/-- The handles that every document has. -/
def usualHandles : List (String × String) := [("!", "!"), ("!!", Tag.commonAddress)]

/-- The directives in front of a document; `versioned` says whether one of them gave the version. -/
def directives : (fuel : Nat) → (versioned : Bool) → List (String × String) →
    Build (List (String × String))
  | 0, _, handles => return handles
  | fuel + 1, versioned, handles => do
    match ← peek with
    | ⟨.directive directive, start, _⟩ =>
      let _ ← take
      match directive with
      | .version major _ =>
        if versioned then complain (.plain "found duplicate YAML directive" start)
        else if major ≠ 1 then
          complain (.plain "found incompatible YAML document (version 1.* is required)" start)
        else directives fuel true handles
      | .tag handle affix =>
        if (handles.lookup handle).isSome then
          complain (.plain ("duplicate tag handle " ++ Text.quote handle) start)
        else directives fuel versioned (handles ++ [(handle, affix)])
      | .other _ => directives fuel versioned handles
    | _ => return handles

/-- The directives and the mark in front of an explicit document, and where they begin. -/
def documentStart (fuel : Nat) : Build Mark := do
  let first ← peek
  let handles ← directives fuel false []
  let token ← peek
  if token.kind ≠ .documentStart then
    complain (.plain ("expected '<document start>', but found " ++ Text.quote token.kind.name)
      token.start)
  let _ ← take
  modify fun reader => { reader with handles := handles ++ usualHandles }
  return first.start

/-- Takes the marks that end documents. -/
def documentEnds : (fuel : Nat) → Build Unit
  | 0 => return
  | fuel + 1 => do
    if ← isNext [.documentEnd] then
      let _ ← take
      documentEnds fuel

/-- The number of the root of the only document, none if there is no document. -/
def document (fuel : Nat) : Build (Option Nat) := do
  let _ ← take
  let content ← kind
  if content == .streamEnd then return none
  let root ←
    match content with
    | .directive _ | .documentStart => do
      let _ ← documentStart fuel
      let token ← peek
      match token.kind with
      | .directive _ | .documentStart | .documentEnd | .streamEnd => addAbsent token.start
      | _ => node fuel true false
    | _ => do
      modify fun reader => { reader with handles := usualHandles }
      node fuel true false
  documentEnds fuel
  if (← kind) ≠ .streamEnd then
    let start ← documentStart fuel
    complain (.during "expected a single document in the stream" ((← get).nodes.node root).mark
      "but found another document" start)
  return some root

end Build

/-- The nodes of a document, and the number of its root. -/
structure Composition where
  nodes : Graph
  root : Nat
deriving Repr

/-- The nodes that the tokens of a document build, none if the document is empty. -/
def Composition.ofTokens? (stream : TokenStream) : Except Fault (Option Composition) := do
  let reader : Reader := ⟨stream.tokens, stream.fault?, #[], [], []⟩
  let (root?, reader) ← (Build.document (4 * stream.tokens.length + 8)).run reader
  return root?.map fun root => ⟨reader.nodes, root⟩

end Narrative.Yaml
