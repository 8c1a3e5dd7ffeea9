/-
Module: Narrative.Yaml.Cursor
Purpose: A place in a document, and what can be seen from it.
Main exports: Mark, Mark.show, Cursor, Cursor.left, Cursor.next, Cursor.skip, Cursor.span, Cursor.lineBreak
-/

namespace Narrative.Yaml

/-- A place in a document: the number of characters before it, and its line and column, all from
zero. -/
structure Mark where
  index : Nat
  line : Nat
  column : Nat
deriving Repr, DecidableEq, Inhabited

/-- Whether a character ends a line. -/
def isBreak (c : Char) : Bool :=
  c == '\n' || c == '\r' || c.toNat == 0x85 || c.toNat == 0x2028 || c.toNat == 0x2029

/-! ### A place as it is shown to the author -/

/-- The longest piece of a line that is shown on either side of a place. -/
def excerptLimit : Nat := 37

/-- What is shown of a longer piece. -/
def excerptKept : Nat := 32

/-- The piece of a line next to a place, cut if it is too long, and whether it was cut. -/
def excerpt (side : List Char) : List Char × Bool :=
  let line := side.takeWhile (!isBreak ·)
  if line.length < excerptLimit then (line, false) else (line.take excerptKept, true)

/-- The line at a place with an arrow below. -/
def Mark.show (mark : Mark) (document : List Char) : String :=
  let (before, cutBefore) := excerpt (document.take mark.index).reverse
  let (after, cutAfter) := excerpt (document.drop mark.index)
  let dots (cut : Bool) : String := if cut then " ... " else ""
  let head := dots cutBefore ++ String.ofList before.reverse
  "  in \"<unicode string>\", line " ++ toString (mark.line + 1) ++ ", column " ++
    toString (mark.column + 1) ++ ":\n    " ++ head ++ String.ofList after ++ dots cutAfter ++ "\n" ++
    String.ofList (List.replicate (4 + head.length) ' ') ++ "^"

/-! ### Moving through a document -/

/-- A place in a document with the text from there on, and the number of all characters. -/
structure Cursor extends Mark where
  rest : List Char
  size : Nat
deriving Repr, Inhabited

namespace Cursor

/-- The beginning of a document. -/
def start (document : List Char) : Cursor :=
  { index := 0, line := 0, column := 0, rest := document, size := document.length }

/-- The number of characters from here on. -/
def left (cursor : Cursor) : Nat := cursor.size - cursor.index

/-- The character at a distance, none beyond the end. -/
def peek? (cursor : Cursor) (distance : Nat) : Option Char := cursor.rest[distance]?

/-- The character here, none at the end. -/
def here? (cursor : Cursor) : Option Char := cursor.rest.head?

/-- One character further. The byte order mark has no width, and the two characters of a line end
count as one line. -/
def next (cursor : Cursor) : Cursor :=
  match cursor.rest with
  | [] => cursor
  | c :: rest =>
    if isBreak c && !(c == '\r' && rest.head? == some '\n') then
      { cursor with index := cursor.index + 1, line := cursor.line + 1, column := 0, rest }
    else
      let column := if c.toNat == 0xfeff then cursor.column else cursor.column + 1
      { cursor with index := cursor.index + 1, column, rest }

/-- Some characters further. -/
def skip : Nat → Cursor → Cursor
  | 0, cursor => cursor
  | n + 1, cursor => skip n cursor.next

/-- The longest run of characters of a kind from here, and the place after it. -/
def span (cursor : Cursor) (kind : Char → Bool) : List Char × Cursor :=
  let run := cursor.rest.takeWhile kind
  (run, cursor.skip run.length)

/-- The place after the characters of a kind. -/
def skipWhile (cursor : Cursor) (kind : Char → Bool) : Cursor := (cursor.span kind).2

/-- The place after the spaces. -/
def skipSpaces (cursor : Cursor) : Cursor := cursor.skipWhile (· == ' ')

/-- The place at the end of the line. -/
def skipLine (cursor : Cursor) : Cursor := cursor.skipWhile (!isBreak ·)

/-- The line end here, as it counts in text, and the place after it; nothing if no line ends here.
All line ends count as a line feed but the separators of lines and paragraphs. -/
def lineBreak (cursor : Cursor) : List Char × Cursor :=
  match cursor.rest with
  | [] => ([], cursor)
  | c :: rest =>
    if !isBreak c then ([], cursor)
    else if c.toNat == 0x2028 || c.toNat == 0x2029 then ([c], cursor.next)
    else if c == '\r' && rest.head? == some '\n' then (['\n'], cursor.next.next)
    else (['\n'], cursor.next)

/-- The place here. -/
def mark (cursor : Cursor) : Mark := cursor.toMark

end Cursor

/-! ### What ends what -/

/-- Whether a line ends here. -/
def endsLine : Option Char → Bool
  | none => true
  | some c => isBreak c

/-- Whether a line ends here or a space stands here. -/
def endsPart : Option Char → Bool
  | some ' ' => true
  | c => endsLine c

/-- Whether a line ends here or a space or a tab stands here. -/
def endsWord : Option Char → Bool
  | some '\t' => true
  | c => endsPart c

/-- Whether the mark of three equal characters that begins or ends a document stands here. -/
def Cursor.isAt (cursor : Cursor) (c : Char) : Bool :=
  cursor.rest.take 3 == [c, c, c] && endsWord (cursor.peek? 3)

/-- Whether a document begins or ends here. -/
def Cursor.isAtDocumentMark (cursor : Cursor) : Bool := cursor.isAt '-' || cursor.isAt '.'

end Narrative.Yaml
