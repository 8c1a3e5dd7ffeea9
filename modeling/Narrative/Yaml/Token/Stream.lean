/-
Module: Narrative.Yaml.Token.Stream
Purpose: The tokens of a whole document, with the marks that indentation and the colons of keys
  stand for.
Main exports: TokenStream, tokens
-/
import Narrative.Yaml.Token.Property

namespace Narrative.Yaml

/-- A place that becomes a key if a colon follows on the same line: the number of its first token,
whether it has to become one, and where it begins. -/
structure PendingKey where
  token : Nat
  required : Bool
  start : Mark
deriving Repr

/-- The state of reading tokens: the place, the tokens so far with the last one first and their number,
the depth of brackets, the columns of the open blocks, whether a key may begin here, and the pending
keys, one for a depth. -/
structure LexState where
  cursor : Cursor
  tokens : List Token
  count : Nat
  depth : Int
  indent : Int
  outer : List Int
  keyAllowed : Bool
  pending : List (Int × PendingKey)
deriving Repr

/-- The number of characters after which a pending key is given up. -/
def keyLimit : Nat := 1024

namespace LexState

/-- The state at the beginning of a document. -/
def initial (document : List Char) : LexState where
  cursor := .start document
  tokens := [⟨.streamStart, (Cursor.start document).mark, (Cursor.start document).mark⟩]
  count := 1
  depth := 0
  indent := -1
  outer := []
  keyAllowed := true
  pending := []

/-- Whether the place is between brackets. -/
def inFlow (state : LexState) : Bool := state.depth ≠ 0

/-- The column of the place. -/
def column (state : LexState) : Int := state.cursor.column

/-- The state with one more token. -/
def add (state : LexState) (token : Token) : LexState :=
  { state with tokens := token :: state.tokens, count := state.count + 1 }

/-- The state with one more token, before those from a position on. -/
def insert (state : LexState) (position : Nat) (token : Token) : LexState :=
  let later := state.count - position
  { state with
    tokens := state.tokens.take later ++ token :: state.tokens.drop later
    count := state.count + 1 }

/-- The state with one more token of no width. -/
def mark (state : LexState) (kind : TokenKind) : LexState :=
  state.add ⟨kind, state.cursor.mark, state.cursor.mark⟩

/-- The state with one more token that ends at a later place. -/
def push (state : LexState) (kind : TokenKind) (after : Cursor) : LexState :=
  { state.add ⟨kind, state.cursor.mark, after.mark⟩ with cursor := after }

/-- The state with a sign of some characters as its token. -/
def pushSign (state : LexState) (kind : TokenKind) (width : Nat) : LexState :=
  state.push kind (state.cursor.skip width)

/-- The complaint that a key has no colon. -/
def missingColon (state : LexState) (key : PendingKey) : Fault :=
  .misplaced (.during "while scanning a simple key" key.start "could not find expected ':'"
    state.cursor.mark)

/-- Gives up the pending keys that are on another line or too far away. -/
def dropStale (state : LexState) : Except Fault LexState :=
  let isStale (key : PendingKey) : Bool :=
    key.start.line ≠ state.cursor.line || state.cursor.index - key.start.index > keyLimit
  match state.pending.find? fun (_, key) => isStale key && key.required with
  | some (_, key) => .error (state.missingColon key)
  | none => .ok { state with pending := state.pending.filter fun (_, key) => !isStale key }

/-- Gives up the pending key at the present depth. -/
def dropPending (state : LexState) : Except Fault LexState :=
  match state.pending.lookup state.depth with
  | some key =>
    if key.required then .error (state.missingColon key)
    else .ok { state with pending := state.pending.filter (·.1 ≠ state.depth) }
  | none => .ok state

/-- Notes that a key may begin here. In a block, the first thing in a line has to be one. -/
def savePending (state : LexState) : Except Fault LexState :=
  if state.keyAllowed then do
    let state ← state.dropPending
    let required := !state.inFlow && state.indent == state.column
    let key : PendingKey := ⟨state.count, required, state.cursor.mark⟩
    return { state with pending := state.pending ++ [(state.depth, key)] }
  else .ok state

/-- Ends the blocks that are indented by more than the column. -/
def closeBlocks (column : Int) (state : LexState) : LexState :=
  if state.inFlow then state else close state.outer state
where
  close : List Int → LexState → LexState
    | [], state => state
    | outer :: more, state =>
      if state.indent > column then
        close more { state.mark .blockEnd with indent := outer, outer := more }
      else state

/-- Begins a block at the column, and says whether it is deeper than the one around it. -/
def openBlock (column : Int) (state : LexState) : LexState × Bool :=
  if state.indent < column then
    ({ state with outer := state.indent :: state.outer, indent := column }, true)
  else (state, false)

/-- Begins a block here with its token, if it is deeper than the one around it. -/
def openHere (kind : TokenKind) (state : LexState) : LexState :=
  match state.openBlock state.column with
  | (state, true) => state.mark kind
  | (state, false) => state

/-! ### One token -/

/-- The place of the next token. A line end allows a key in a block. -/
def skipToToken : (fuel : Nat) → LexState → LexState
  | 0, state => state
  | fuel + 1, state =>
    let blank := state.cursor.skipSpaces
    let after := if blank.here? == some '#' then blank.skipLine else blank
    if after.here?.any isBreak then
      skipToToken fuel
        { state with cursor := after.lineBreak.2, keyAllowed := state.keyAllowed || !state.inFlow }
    else { state with cursor := after }

/-- A complaint that something is not allowed here. -/
def notAllowed (state : LexState) (what : String) : Fault :=
  .misplaced (.plain (what ++ " are not allowed here") state.cursor.mark)

/-- The end of the document. -/
def fetchEnd (state : LexState) : Except Fault LexState := do
  let state ← (state.closeBlocks (-1)).dropPending
  return { state with keyAllowed := false, pending := [] }.mark .streamEnd

/-- A directive. -/
def fetchDirective (state : LexState) : Except Fault LexState := do
  let state ← (state.closeBlocks (-1)).dropPending
  let (directive, stop, after) ← scanDirective state.cursor
  let state := state.add ⟨.directive directive, state.cursor.mark, stop⟩
  return { state with keyAllowed := false, cursor := after }

/-- A mark that begins or ends a document. -/
def fetchDocumentMark (kind : TokenKind) (state : LexState) : Except Fault LexState := do
  let state ← (state.closeBlocks (-1)).dropPending
  return { state with keyAllowed := false }.pushSign kind 3

/-- An opening bracket. -/
def fetchOpening (kind : TokenKind) (state : LexState) : Except Fault LexState := do
  let state ← state.savePending
  return { state with depth := state.depth + 1, keyAllowed := true }.pushSign kind 1

/-- A closing bracket. -/
def fetchClosing (kind : TokenKind) (state : LexState) : Except Fault LexState := do
  let state ← state.dropPending
  return { state with depth := state.depth - 1, keyAllowed := false }.pushSign kind 1

/-- A comma between brackets. -/
def fetchComma (state : LexState) : Except Fault LexState := do
  let state ← { state with keyAllowed := true }.dropPending
  return state.pushSign .flowEntry 1

/-- The dash of an entry. -/
def fetchDash (state : LexState) : Except Fault LexState := do
  if !state.inFlow && !state.keyAllowed then .error (state.notAllowed "sequence entries")
  let state := if state.inFlow then state else state.openHere .blockSequenceStart
  let state ← { state with keyAllowed := true }.dropPending
  return state.pushSign .blockEntry 1

/-- The question mark of a key. -/
def fetchQuestion (state : LexState) : Except Fault LexState := do
  if !state.inFlow && !state.keyAllowed then .error (state.notAllowed "mapping keys")
  let state := if state.inFlow then state else state.openHere .blockMappingStart
  let state ← { state with keyAllowed := !state.inFlow }.dropPending
  return state.pushSign .key 1

/-- The colon of a value. If a key is pending at this depth, the key begins where it was noted. -/
def fetchColon (state : LexState) : Except Fault LexState :=
  match state.pending.lookup state.depth with
  | some key =>
    let put (kind : TokenKind) (state : LexState) : LexState :=
      state.insert key.token ⟨kind, key.start, key.start⟩
    let state := put .key { state with pending := state.pending.filter (·.1 ≠ state.depth) }
    let state :=
      if state.inFlow then state
      else
        match state.openBlock key.start.column with
        | (state, true) => put .blockMappingStart state
        | (state, false) => state
    .ok ({ state with keyAllowed := false }.pushSign .value 1)
  | none => do
    if !state.inFlow && !state.keyAllowed then .error (state.notAllowed "mapping values")
    let state := if state.inFlow then state else state.openHere .blockMappingStart
    let state ← { state with keyAllowed := !state.inFlow }.dropPending
    return state.pushSign .value 1

/-- An anchor or an alias. -/
def fetchName (kind : String → TokenKind) (state : LexState) : Except Fault LexState := do
  let state ← state.savePending
  let (name, after) ← scanName state.cursor
  return { state with keyAllowed := false }.push (kind name) after

/-- A tag. -/
def fetchTag (state : LexState) : Except Fault LexState := do
  let state ← state.savePending
  let (name, after) ← scanTag state.cursor
  return { state with keyAllowed := false }.push (.tag name) after

/-- A block of lines. -/
def fetchBlock (folded : Bool) (state : LexState) : Except Fault LexState := do
  let state ← { state with keyAllowed := true }.dropPending
  let (text, after) ← blockScalar folded state.indent state.cursor
  return state.push (.scalar .marked text) after

/-- A scalar in quotes. -/
def fetchQuoted (quote : Char) (state : LexState) : Except Fault LexState := do
  let state ← state.savePending
  let (text, after) ← quotedScalar quote state.cursor
  return { state with keyAllowed := false }.push (.scalar .marked text) after

/-- A plain scalar. -/
def fetchPlain (state : LexState) : Except Fault LexState := do
  let state ← state.savePending
  let scalar := plainScalar state.inFlow (state.indent + 1) state.cursor
  return { state with keyAllowed := scalar.crossedLine }.push (.scalar .plain scalar.text)
    scalar.after

/-- Whether a plain scalar can begin with the character, given the one after it. -/
def beginsPlain (inFlow : Bool) (c : Char) (second : Option Char) : Bool :=
  !(endsWord (some c) || "-?:,[]\x7b\x7d#&*!|>'\"%@`".toList.contains c) ||
    (!endsWord second && (c == '-' || (!inFlow && (c == '?' || c == ':'))))

/-- The token that begins with the character here. -/
def fetchAt (c : Char) (state : LexState) : Except Fault LexState :=
  let cursor := state.cursor
  let second := cursor.peek? 1
  let lineStart := cursor.column == 0
  if c == '%' && lineStart then state.fetchDirective
  else if c == '-' && lineStart && cursor.isAt '-' then state.fetchDocumentMark .documentStart
  else if c == '.' && lineStart && cursor.isAt '.' then state.fetchDocumentMark .documentEnd
  else if c == '[' then state.fetchOpening .flowSequenceStart
  else if c == '{' then state.fetchOpening .flowMappingStart
  else if c == ']' then state.fetchClosing .flowSequenceEnd
  else if c == '}' then state.fetchClosing .flowMappingEnd
  else if c == ',' then state.fetchComma
  else if c == '-' && endsWord second then state.fetchDash
  else if c == '?' && (state.inFlow || endsWord second) then state.fetchQuestion
  else if c == ':' && (state.inFlow || endsWord second) then state.fetchColon
  else if c == '*' then state.fetchName .alias
  else if c == '&' then state.fetchName .anchor
  else if c == '!' then state.fetchTag
  else if c == '|' && !state.inFlow then state.fetchBlock false
  else if c == '>' && !state.inFlow then state.fetchBlock true
  else if c == '\'' || c == '"' then state.fetchQuoted c
  else if beginsPlain state.inFlow c second then state.fetchPlain
  else
    .error (.misplaced ⟨some "while scanning for the next token", none,
      "found character " ++ shown (some c) ++ " that cannot start any token", cursor.mark⟩)

/-- The state after the next token; the flag says whether the document has ended. -/
def step (state : LexState) : Except Fault (LexState × Bool) := do
  let state := state.skipToToken (state.cursor.left + 1)
  let state ← state.dropStale
  let state := state.closeBlocks state.column
  match state.cursor.here? with
  | none => return (← state.fetchEnd, true)
  | some c => return (← (← state.fetchAt c).dropStale, false)

/-- The tokens that no pending key can change any more. -/
def settled (state : LexState) : List Token :=
  let number := state.pending.foldl (fun least (_, key) => min least key.token) state.count
  (state.tokens.drop (state.count - number)).reverse

end LexState

/-- The tokens of a document up to its end or to the first fault that a reader meets. -/
structure TokenStream where
  tokens : List Token
  fault? : Option Fault

/-- The tokens from a state on. Each step reads at least one character. -/
def tokensFrom (state : LexState) : TokenStream :=
  match state.step with
  | .error fault => ⟨state.settled, some fault⟩
  | .ok (next, true) => ⟨next.tokens.reverse, none⟩
  | .ok (next, false) =>
    if next.cursor.left < state.cursor.left then tokensFrom next
    else ⟨next.tokens.reverse, none⟩
termination_by state.cursor.left

/-- The tokens of a document. A byte order mark at its beginning does not count. -/
def tokens (document : List Char) : TokenStream :=
  let state := LexState.initial document
  tokensFrom <|
    if state.cursor.here? == some (Char.ofNat 0xfeff) then { state with cursor := state.cursor.next }
    else state

end Narrative.Yaml
