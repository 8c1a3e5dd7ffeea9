/-
Module: Narrative.Yaml.Token.Scalar
Purpose: The text of scalars: plain ones, those in quotes, and blocks of lines.
Main exports: PlainScalar, plainScalar, quotedScalar, blockScalar
-/
import Narrative.Numeral.Power
import Narrative.Yaml.Token.Basic

namespace Narrative.Yaml

/-! ### Plain scalars -/

/-- A plain scalar: its text, the place after it and the blanks that follow it, and whether these
blanks cross a line end. -/
structure PlainScalar where
  text : List Char
  after : Cursor
  crossedLine : Bool

/-- The characters that have a meaning of their own between brackets. -/
def isFlowMark (c : Char) : Bool := ",[]\x7b\x7d".toList.contains c

/-- The run of characters up to a blank, to a colon that ends a key, or between brackets to a
character with a meaning of its own. -/
def plainRun (inFlow : Bool) : List Char → List Char
  | [] => []
  | c :: rest =>
    if endsWord (some c) then []
    else if c == ':' && (endsWord rest.head? || (inFlow && rest.head?.any isFlowMark)) then []
    else if inFlow && (c == '?' || isFlowMark c) then []
    else c :: plainRun inFlow rest

/-- The line ends among the blanks from here, the place after them, and whether a document begins or
ends on one of the lines, where the blanks end. -/
def blankLines : (fuel : Nat) → Cursor → List Char × Cursor × Bool
  | 0, cursor => ([], cursor, false)
  | fuel + 1, cursor =>
    match cursor.here? with
    | none => ([], cursor, false)
    | some c =>
      if c == ' ' then blankLines fuel cursor.next
      else if isBreak c then
        let (ending, after) := cursor.lineBreak
        if after.isAtDocumentMark then ([], after, true)
        else
          let (more, last, ended) := blankLines fuel after
          (ending ++ more, last, ended)
      else ([], cursor, false)

/-- What line ends count for in running text: one of them is a space, and of several the first does
not count. -/
def foldedBreaks (first others : List Char) : List Char :=
  if first ≠ ['\n'] then first ++ others else if others.isEmpty then [' '] else others

/-- The blanks after a run, as they count in the text, the place after them, and whether they cross
a line end. No blanks count where the scalar ends. -/
def plainBlanks (cursor : Cursor) : List Char × Cursor × Bool :=
  let (spaces, after) := cursor.span (· == ' ')
  if after.here?.any isBreak then
    let (first, next) := after.lineBreak
    if next.isAtDocumentMark then ([], next, true)
    else
      let (others, last, ended) := blankLines next.left next
      (if ended then [] else foldedBreaks first others, last, true)
  else (spaces, after, false)

/-- The runs of a plain scalar, joined by the blanks between them. `pending` holds the blanks before
the next run. -/
def plainRuns (inFlow : Bool) (indent : Int) :
    (fuel : Nat) → (pending : List Char) → (crossed : Bool) → Cursor → PlainScalar
  | 0, _, crossed, cursor => ⟨[], cursor, crossed⟩
  | fuel + 1, pending, crossed, cursor =>
    let run := if cursor.here? == some '#' then [] else plainRun inFlow cursor.rest
    if run.isEmpty then ⟨[], cursor, crossed⟩
    else
      let (blanks, after, crosses) := plainBlanks (cursor.skip run.length)
      if blanks.isEmpty || after.here? == some '#' || (!inFlow && (after.column : Int) < indent) then
        ⟨pending ++ run, after, crosses⟩
      else
        let more := plainRuns inFlow indent fuel blanks crosses after
        { more with text := pending ++ run ++ more.text }

/-- The plain scalar that begins here. Outside brackets its lines are indented by at least
`indent`. -/
def plainScalar (inFlow : Bool) (indent : Int) (cursor : Cursor) : PlainScalar :=
  plainRuns inFlow indent cursor.left [] false cursor

/-! ### Scalars in quotes -/

/-- The character that a letter after a backslash stands for. -/
def escaped? : Char → Option Char
  | '0' => some (Char.ofNat 0)
  | 'a' => some (Char.ofNat 7)
  | 'b' => some (Char.ofNat 8)
  | 't' | '\t' => some '\t'
  | 'n' => some '\n'
  | 'v' => some (Char.ofNat 0xb)
  | 'f' => some (Char.ofNat 0xc)
  | 'r' => some '\r'
  | 'e' => some (Char.ofNat 0x1b)
  | ' ' => some ' '
  | '"' => some '"'
  | '\\' => some '\\'
  | '/' => some '/'
  | 'N' => some (Char.ofNat 0x85)
  | '_' => some (Char.ofNat 0xa0)
  | 'L' => some (Char.ofNat 0x2028)
  | 'P' => some (Char.ofNat 0x2029)
  | _ => none

/-- The number of digits after a letter that begins a character code. -/
def codeDigits? : Char → Option Nat
  | 'x' => some 2
  | 'u' => some 4
  | 'U' => some 8
  | _ => none

/-- The value of a digit in base sixteen. -/
def hexDigit? (c : Char) : Option Nat :=
  if c.isDigit then some (c.toNat - 0x30)
  else if 'a' ≤ c && c ≤ 'f' then some (c.toNat - 0x57)
  else if 'A' ≤ c && c ≤ 'F' then some (c.toNat - 0x37)
  else none

/-- The number that this many digits in base sixteen write, or the first character that is no such
digit. -/
def hexNumber : (count : Nat) → (value : Nat) → List Char → Except (Option Char) Nat
  | 0, value, _ => .ok value
  | count + 1, value, cs =>
    match cs.head?.bind hexDigit? with
    | some digit => hexNumber count (value * 16 + digit) cs.tail
    | none => .error cs.head?

/-- The line ends here, and the blanks around them, in a scalar in quotes. -/
def quotedBreaks (since : Mark) : (fuel : Nat) → Cursor → Except Fault (List Char × Cursor)
  | 0, cursor => .ok ([], cursor)
  | fuel + 1, cursor =>
    if cursor.isAtDocumentMark then
      .error (.misplaced (.during "while scanning a quoted scalar" since
        "found unexpected document separator" cursor.mark))
    else
      let after := cursor.skipWhile fun c => c == ' ' || c == '\t'
      if after.here?.any isBreak then do
        let (ending, next) := after.lineBreak
        let (more, last) ← quotedBreaks since fuel next
        return (ending ++ more, last)
      else .ok ([], after)

/-- The character of a code. A code that is half of a pair is replaced, and codes beyond all
characters are refused. -/
def characterOf (code : Nat) : Except Fault Char :=
  if 0xd800 ≤ code && code < 0xe000 then .ok (Char.ofNat 0xfffd)
  else if code < 0x110000 then .ok (Char.ofNat code)
  else if code < Numeral.twoTo 31 then
    .error (.scalar (.invalid "chr() arg not in range(0x110000)"))
  else .error (.scalar .hugeCode)

/-- What a backslash and the text after it stand for; the place is after the backslash. -/
def escapeSequence (since : Mark) (cursor : Cursor) : Except Fault (List Char × Cursor) :=
  let complain (problem : String) (mark : Mark) : Except Fault (List Char × Cursor) :=
    .error (.misplaced (.during "while scanning a double-quoted scalar" since problem mark))
  let unknown := complain ("found unknown escape character " ++ shown cursor.here?) cursor.mark
  match cursor.here? with
  | none => unknown
  | some c =>
    match escaped? c with
    | some character => .ok ([character], cursor.next)
    | none =>
      match codeDigits? c with
      | some count =>
        match hexNumber count 0 cursor.next.rest with
        | .error found =>
          complain ("expected escape sequence of " ++ toString count ++
            " hexadecimal numbers, but found " ++ shown found) cursor.next.mark
        | .ok code => do return ([← characterOf code], cursor.next.skip count)
      | none =>
        if isBreak c then quotedBreaks since cursor.left cursor.lineBreak.2 else unknown

/-- The characters in quotes up to the next blank or the closing quote. -/
def quotedRun (double : Bool) (since : Mark) :
    (fuel : Nat) → Cursor → Except Fault (List Char × Cursor)
  | 0, cursor => .ok ([], cursor)
  | fuel + 1, cursor =>
    let continued (text : List Char) (after : Cursor) : Except Fault (List Char × Cursor) := do
      let (more, last) ← quotedRun double since fuel after
      return (text ++ more, last)
    match cursor.here? with
    | none => .ok ([], cursor)
    | some c =>
      if c == '\'' then
        if double then continued [c] cursor.next
        else if cursor.peek? 1 == some '\'' then continued [c] (cursor.skip 2)
        else .ok ([], cursor)
      else if c == '"' then
        if double then .ok ([], cursor) else continued [c] cursor.next
      else if c == '\\' then
        if double then do
          let (text, after) ← escapeSequence since cursor.next
          continued text after
        else continued [c] cursor.next
      else if endsWord (some c) then .ok ([], cursor)
      else continued [c] cursor.next

/-- The blanks inside quotes, as they count in the text. -/
def quotedBlanks (since : Mark) (cursor : Cursor) : Except Fault (List Char × Cursor) :=
  let (spaces, after) := cursor.span fun c => c == ' ' || c == '\t'
  match after.here? with
  | none =>
    .error (.misplaced (.during "while scanning a quoted scalar" since
      "found unexpected end of stream" after.mark))
  | some c =>
    if isBreak c then do
      let (first, next) := after.lineBreak
      let (others, last) ← quotedBreaks since next.left next
      return (foldedBreaks first others, last)
    else .ok (spaces, after)

/-- The rest of a scalar in quotes, up to and with the closing quote. -/
def quotedRest (quote : Char) (since : Mark) :
    (fuel : Nat) → Cursor → Except Fault (List Char × Cursor)
  | 0, cursor => .ok ([], cursor)
  | fuel + 1, cursor =>
    if cursor.here? == some quote then .ok ([], cursor.next)
    else do
      let (blanks, next) ← quotedBlanks since cursor
      let (run, after) ← quotedRun (quote == '"') since next.left next
      let (more, last) ← quotedRest quote since fuel after
      return (blanks ++ run ++ more, last)

/-- The scalar in quotes that begins here, and the place after it. -/
def quotedScalar (quote : Char) (cursor : Cursor) : Except Fault (List Char × Cursor) := do
  let since := cursor.mark
  let (run, after) ← quotedRun (quote == '"') since cursor.left cursor.next
  let (more, last) ← quotedRest quote since (cursor.left + 1) after
  return (run ++ more, last)

/-! ### Blocks of lines -/

/-- What happens to the line ends at the end of a block: one is kept, all are, or none. -/
inductive Chomping where
  | clip
  | keep
  | strip
deriving Repr, DecidableEq

/-- The sign of a chomping. -/
def Chomping.ofSign? : Option Char → Option Chomping
  | some '+' => some .keep
  | some '-' => some .strip
  | _ => none

/-- The complaint about a block. -/
def blockComplaint (since : Mark) (problem : String) (mark : Mark) : Fault :=
  .misplaced (.during "while scanning a block scalar" since problem mark)

/-- An indentation that is written in the header of a block, if a digit stands here. -/
def blockIncrement (since : Mark) (cursor : Cursor) : Except Fault (Option Nat × Cursor) :=
  match cursor.here? with
  | some c =>
    if c == '0' then
      .error (blockComplaint since
        "expected indentation indicator in the range 1-9, but found 0" cursor.mark)
    else if c.isDigit then .ok (some (c.toNat - 0x30), cursor.next)
    else .ok (none, cursor)
  | none => .ok (none, cursor)

/-- The header of a block: its chomping and its indentation, in either order. -/
def blockHeader (since : Mark) (cursor : Cursor) :
    Except Fault (Chomping × Option Nat × Cursor) := do
  let (chomping, increment, after) ←
    match Chomping.ofSign? cursor.here? with
    | some chomping => do
      let (increment, after) ← blockIncrement since cursor.next
      pure (chomping, increment, after)
    | none => do
      let (increment, after) ← blockIncrement since cursor
      match increment, Chomping.ofSign? after.here? with
      | some _, some chomping => pure (chomping, increment, after.next)
      | _, _ => pure (.clip, increment, after)
  if endsPart after.here? then return (chomping, increment, after)
  else
    .error (blockComplaint since
      ("expected chomping or indentation indicators, but found " ++ shown after.here?) after.mark)

/-- The place after the rest of a line that holds nothing but a comment. -/
def commentLine (complain : String → Mark → Fault) (cursor : Cursor) : Except Fault Cursor :=
  let blank := cursor.skipSpaces
  let after := if blank.here? == some '#' then blank.skipLine else blank
  if endsLine after.here? then .ok after.lineBreak.2
  else
    .error (complain ("expected a comment or a line break, but found " ++ shown after.here?)
      after.mark)

/-- The empty lines before the first line of a block, the greatest indentation among them, and the
place after them. -/
def leadingLines : (fuel : Nat) → (deepest : Nat) → Cursor → List Char × Nat × Cursor
  | 0, deepest, cursor => ([], deepest, cursor)
  | fuel + 1, deepest, cursor =>
    match cursor.here? with
    | some ' ' => leadingLines fuel (max deepest cursor.next.column) cursor.next
    | some c =>
      if isBreak c then
        let (ending, after) := cursor.lineBreak
        let (more, found, last) := leadingLines fuel deepest after
        (ending ++ more, found, last)
      else ([], deepest, cursor)
    | none => ([], deepest, cursor)

/-- The place after at most so many spaces that the column is `indent`. -/
def skipIndent (indent : Nat) (cursor : Cursor) : Cursor :=
  let spaces := (cursor.rest.takeWhile (· == ' ')).length
  cursor.skip (min spaces (indent - cursor.column))

/-- The empty lines between two lines of a block, and the place after them. -/
def emptyLines (indent : Nat) : (fuel : Nat) → Cursor → List Char × Cursor
  | 0, cursor => ([], cursor)
  | fuel + 1, cursor =>
    let here := skipIndent indent cursor
    if here.here?.any isBreak then
      let (ending, after) := here.lineBreak
      let (more, last) := emptyLines indent fuel after
      (ending ++ more, last)
    else ([], here)

/-- Whether a space or a tab stands here. -/
def atBlank (cursor : Cursor) : Bool := cursor.here? == some ' ' || cursor.here? == some '\t'

/-- The lines of a block from here, where `before` holds the empty lines before them: the text, the
line end of the last line, the empty lines after it, and the place after all. -/
def blockLines (folded : Bool) (indent : Nat) :
    (fuel : Nat) → (before : List Char) → Cursor → List Char × List Char × List Char × Cursor
  | 0, before, cursor => ([], [], before, cursor)
  | fuel + 1, before, cursor =>
    let (line, lineEnd) := cursor.span (!isBreak ·)
    let (ending, next) := lineEnd.lineBreak
    let (empty, after) := emptyLines indent (next.left + 1) next
    if after.column == indent && after.here?.isSome then
      let joint :=
        if folded && ending == ['\n'] && !atBlank cursor && !atBlank after then
          if empty.isEmpty then [' '] else []
        else ending
      let (text, lastEnding, lastEmpty, last) := blockLines folded indent fuel empty after
      (before ++ line ++ joint ++ text, lastEnding, lastEmpty, last)
    else (before ++ line, ending, empty, after)

/-- The block of lines that begins here, and the place after it; `outer` is the indentation of what
the block is part of. -/
def blockScalar (folded : Bool) (outer : Int) (cursor : Cursor) :
    Except Fault (List Char × Cursor) := do
  let since := cursor.mark
  let (chomping, increment, header) ← blockHeader since cursor.next
  let first ← commentLine (blockComplaint since) header
  let least := (max 1 (outer + 1)).toNat
  let (before, indent, body) :=
    match increment with
    | none =>
      let (before, deepest, body) := leadingLines first.left 0 first
      (before, max least deepest, body)
    | some increment =>
      let indent := least + increment - 1
      let (before, body) := emptyLines indent (first.left + 1) first
      (before, indent, body)
  let (text, ending, empty, last) :=
    if body.column == indent && body.here?.isSome then
      blockLines folded indent body.left before body
    else ([], [], before, body)
  return (match chomping with
    | .strip => text
    | .clip => text ++ ending
    | .keep => text ++ ending ++ empty, last)

end Narrative.Yaml
