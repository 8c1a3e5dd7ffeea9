/-
Module: Narrative.Yaml.Token.Property
Purpose: What stands before a node or a document: anchors and aliases, tags, and directives.
Main exports: scanName, scanTag, scanDirective
-/
import Narrative.Numeral.Whole
import Narrative.Text.Utf8
import Narrative.Yaml.Token.Scalar

namespace Narrative.Yaml

/-- The characters of names. -/
def isNameCharacter (c : Char) : Bool := c.isAlphanum || c == '-' || c == '_'

/-- The characters of the addresses of tags. -/
def isUriCharacter (c : Char) : Bool :=
  c.isAlphanum || "-;/?:@&=+$,_.!~*'()[]%".toList.contains c

/-- The complaint in the course of something that began at a place. -/
def complaintDuring (context : String) (since : Mark) (problem : String) (mark : Mark) : Fault :=
  .misplaced (.during context since problem mark)

/-- The complaint that something else was found than expected. -/
def unexpected (context : String) (since : Mark) (expected : String) (cursor : Cursor) : Fault :=
  complaintDuring context since ("expected " ++ expected ++ ", but found " ++ shown cursor.here?)
    cursor.mark

/-! ### Anchors and aliases -/

/-- The name of an anchor or of an alias, whose sign stands here, and the place after it. -/
def scanName (cursor : Cursor) : Except Fault (String × Cursor) :=
  let what := if cursor.here? == some '*' then "alias" else "anchor"
  let (name, after) := cursor.next.span isNameCharacter
  let ends := after.here?.all fun c => endsWord (some c) || "?:,]\x7d%@`".toList.contains c
  if name.isEmpty || !ends then
    .error (unexpected ("while scanning an " ++ what) cursor.mark
      "alphabetic or numeric character" (if name.isEmpty then cursor.next else after))
  else .ok (String.ofList name, after)

/-! ### Tags -/

/-- The bytes that are written as a percent sign and two digits each, and the place after them. -/
def uriBytes (context : String) (since : Mark) :
    (fuel : Nat) → Cursor → Except Fault (List Nat × Cursor)
  | 0, cursor => .ok ([], cursor)
  | fuel + 1, cursor =>
    if cursor.here? == some '%' then
      match hexNumber 2 0 cursor.next.rest with
      | .error found =>
        .error (complaintDuring context since
          ("expected URI escape sequence of 2 hexadecimal numbers, but found " ++ shown found)
          cursor.next.mark)
      | .ok byte => do
        let (more, after) ← uriBytes context since fuel (cursor.skip 3)
        return (byte :: more, after)
    else .ok ([], cursor)

/-- The characters of an address, with the escaped ones put in. -/
def uriCharacters (context : String) (since : Mark) :
    (fuel : Nat) → Cursor → Except Fault (List Char × Cursor)
  | 0, cursor => .ok ([], cursor)
  | fuel + 1, cursor =>
    match cursor.here? with
    | some '%' => do
      let (bytes, after) ← uriBytes context since cursor.left cursor
      let text ← (Text.decodeUtf8 bytes).mapError fun fault =>
        complaintDuring context since fault.message cursor.mark
      let (more, last) ← uriCharacters context since fuel after
      return (text ++ more, last)
    | some c =>
      if isUriCharacter c then do
        let (more, last) ← uriCharacters context since fuel cursor.next
        return (c :: more, last)
      else .ok ([], cursor)
    | none => .ok ([], cursor)

/-- An address, which has at least one character, and the place after it. -/
def scanUri (what : String) (since : Mark) (cursor : Cursor) :
    Except Fault (String × Cursor) := do
  let (text, after) ← uriCharacters ("while scanning a " ++ what) since cursor.left cursor
  if after.index = cursor.index then
    .error (unexpected ("while parsing a " ++ what) since "URI" after)
  else return (String.ofList text, after)

/-- The handle of a tag, a name between exclamation marks or one of them alone, and the place after
it. -/
def scanHandle (what : String) (since : Mark) (cursor : Cursor) :
    Except Fault (String × Cursor) :=
  let context := "while scanning a " ++ what
  if cursor.here? ≠ some '!' then .error (unexpected context since "'!'" cursor)
  else if cursor.peek? 1 == some ' ' then .ok ("!", cursor.next)
  else
    let (name, after) := cursor.next.span isNameCharacter
    if after.here? == some '!' then .ok (String.ofList ('!' :: name ++ ['!']), after.next)
    else .error (unexpected context since "'!'" after)

/-- The tag that begins here, and the place after it. -/
def scanTag (cursor : Cursor) : Except Fault (TagName × Cursor) := do
  let since := cursor.mark
  let (name, after) ←
    if cursor.peek? 1 == some '<' then do
      let (suffix, after) ← scanUri "tag" since (cursor.skip 2)
      if after.here? == some '>' then pure ((⟨none, suffix⟩ : TagName), after.next)
      else .error (unexpected "while parsing a tag" since "'>'" after)
    else if endsWord (cursor.peek? 1) then pure (⟨none, "!"⟩, cursor.next)
    else do
      let word := cursor.next.rest.takeWhile fun c => !endsPart (some c)
      let (handle, next) ←
        if word.contains '!' then scanHandle "tag" since cursor else pure ("!", cursor.next)
      let (suffix, after) ← scanUri "tag" since next
      pure (⟨some handle, suffix⟩, after)
  if endsPart after.here? then return (name, after)
  else .error (unexpected "while scanning a tag" since "' '" after)

/-! ### Directives -/

/-- The complaint about a directive. -/
def directiveFault (since : Mark) (expected : String) (cursor : Cursor) : Fault :=
  unexpected "while scanning a directive" since expected cursor

/-- A part of a version number, and the place after it. Like any whole number it may have too many
digits to be read. -/
def versionNumber (since : Mark) (cursor : Cursor) : Except Fault (Nat × Cursor) :=
  let (digits, after) := cursor.span Char.isDigit
  if digits.isEmpty then .error (directiveFault since "a digit" cursor)
  else if digits.length > Numeral.maxDigits then
    .error (.scalar (.invalid (Numeral.tooLongToRead digits.length)))
  else .ok (digits.foldl (fun n c => 10 * n + (c.toNat - 0x30)) 0, after)

/-- A version number, and the place after it. -/
def scanVersion (since : Mark) (cursor : Cursor) : Except Fault (Directive × Cursor) := do
  let (major, point) ← versionNumber since cursor.skipSpaces
  if point.here? ≠ some '.' then .error (directiveFault since "a digit or '.'" point)
  let (minor, after) ← versionNumber since point.next
  if endsPart after.here? then return (.version major minor, after)
  else .error (directiveFault since "a digit or ' '" after)

/-- A handle and what it stands for, and the place after them. -/
def scanTagDirective (since : Mark) (cursor : Cursor) : Except Fault (Directive × Cursor) := do
  let (handle, next) ← scanHandle "directive" since cursor.skipSpaces
  if next.here? ≠ some ' ' then .error (directiveFault since "' '" next)
  let (affix, after) ← scanUri "directive" since next.skipSpaces
  if endsPart after.here? then return (.tag handle affix, after)
  else .error (directiveFault since "' '" after)

/-- The directive that begins here, the place where it ends, and the place after its line. -/
def scanDirective (cursor : Cursor) : Except Fault (Directive × Mark × Cursor) := do
  let since := cursor.mark
  let (name, next) := cursor.next.span isNameCharacter
  if name.isEmpty || !endsPart next.here? then
    .error (directiveFault since "alphabetic or numeric character" next)
  let (directive, stop, after) ←
    match String.ofList name with
    | "YAML" => do
      let (directive, after) ← scanVersion since next
      pure (directive, after.mark, after)
    | "TAG" => do
      let (directive, after) ← scanTagDirective since next
      pure (directive, after.mark, after)
    | other => pure (.other other, next.mark, next.skipLine)
  let last ← commentLine (complaintDuring "while scanning a directive" since) after
  return (directive, stop, last)

end Narrative.Yaml
