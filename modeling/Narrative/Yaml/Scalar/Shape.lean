/-
Module: Narrative.Yaml.Scalar.Shape
Purpose: What a plain scalar is by its looks.
Main exports: Tag.ofPlain, Stamp, Stamp.ofText?
-/
import Narrative.Yaml.Node.Basic

namespace Narrative.Yaml

/-- The text without a line feed at its end, which does not count for the looks of a text. A lone line
feed stays. -/
def withoutLastBreak (cs : List Char) : List Char :=
  if 1 < cs.length && cs.getLast? == some '\n' then cs.dropLast else cs

/-! ### Numbers -/

/-- Whether the text consists of one or more characters of a kind. -/
def consistsOf (kind : Char → Bool) (cs : List Char) : Bool := !cs.isEmpty && cs.all kind

/-- A digit or the sign that parts digits. -/
def isDigitOrGap (c : Char) : Bool := c.isDigit || c == '_'

/-- The text without one sign in front. -/
def withoutSign : List Char → List Char
  | '+' :: rest => rest
  | '-' :: rest => rest
  | cs => cs

/-- Whether the text is a number below sixty in one or two digits. -/
def isSixtieth : List Char → Bool
  | [c] => c.isDigit
  | [c, d] => '0' ≤ c && c ≤ '5' && d.isDigit
  | _ => false

/-- Whether the text looks like a whole number: in base two, eight, ten or sixteen, or in hours,
minutes and seconds. -/
def looksWhole (cs : List Char) : Bool :=
  match withoutSign cs with
  | [] => false
  | '0' :: rest =>
    match rest with
    | 'b' :: digits => consistsOf (fun c => c == '0' || c == '1' || c == '_') digits
    | 'x' :: digits =>
      consistsOf (fun c => isDigitOrGap c || ('a' ≤ c && c ≤ 'f') || ('A' ≤ c && c ≤ 'F')) digits
    | digits => digits.all fun c => ('0' ≤ c && c ≤ '7') || c == '_'
  | c :: rest =>
    match (c :: rest).splitOn ':' with
    | first :: parts => c.isDigit && first.all isDigitOrGap && parts.all isSixtieth
    | [] => false

/-- Whether the text is an exponent with its sign, or nothing. -/
def isSignedExponent : List Char → Bool
  | [] => true
  | mark :: sign :: digits =>
    (mark == 'e' || mark == 'E') && (sign == '+' || sign == '-') && consistsOf Char.isDigit digits
  | _ => false

/-- Whether the text is digits after a point, and perhaps an exponent. -/
def isFraction (cs : List Char) : Bool := isSignedExponent (cs.dropWhile isDigitOrGap)

/-- Whether the text looks like a number with a point. -/
def looksDecimal (cs : List Char) : Bool :=
  match cs with
  | '.' :: rest =>
    (rest.head?.any Char.isDigit && isFraction rest) ||
      ["inf", "Inf", "INF", "nan", "NaN", "NAN"].contains (String.ofList rest)
  | _ =>
    match withoutSign cs with
    | '.' :: rest => ["inf", "Inf", "INF"].contains (String.ofList rest)
    | body =>
      let whole := body.takeWhile (· != '.')
      match body.dropWhile (· != '.') with
      | [] => false
      | _ :: fraction =>
        match whole.splitOn ':' with
        | first :: parts =>
          first.head?.any Char.isDigit && first.all isDigitOrGap && parts.all isSixtieth &&
            (if parts.isEmpty then isFraction fraction else fraction.all isDigitOrGap)
        | [] => false

/-! ### Moments -/

/-- The figures of a moment: the day, perhaps the time of the day with the digits after the point of
the second, and perhaps a time zone. -/
structure Stamp where
  year : List Char
  month : List Char
  day : List Char
  time? : Option (List Char × List Char × List Char × List Char)
  zone? : Option (Bool × List Char × List Char)

/-- A number of digits between the bounds, and the rest. -/
def digitsBetween? (least most : Nat) (cs : List Char) : Option (List Char × List Char) :=
  let digits := (cs.takeWhile Char.isDigit).take most
  if digits.length < least then none else some (digits, cs.drop digits.length)

/-- The rest after a character. -/
def after? (c : Char) : List Char → Option (List Char)
  | d :: rest => if c = d then some rest else none
  | [] => none

/-- A time zone: universal time, or an offset of hours and perhaps minutes. -/
def zone? (cs : List Char) : Option (Option (Bool × List Char × List Char)) :=
  match cs.dropWhile fun c => c == ' ' || c == '\t' with
  | [] => if cs.isEmpty then some none else none
  | ['Z'] => some (some (false, ['0'], []))
  | sign :: rest => do
    if sign ≠ '+' ∧ sign ≠ '-' then none
    let (hours, rest) ← digitsBetween? 1 2 rest
    match rest with
    | [] => some (some (sign == '-', hours, []))
    | _ =>
      let (minutes, rest) ← digitsBetween? 2 2 (← after? ':' rest)
      if rest.isEmpty then some (some (sign == '-', hours, minutes)) else none

/-- A time of the day, with what parts it from the day, and perhaps a time zone. -/
def timeAndZone? (cs : List Char) :
    Option ((List Char × List Char × List Char × List Char) ×
      Option (Bool × List Char × List Char)) := do
  let isSpace (c : Char) : Bool := c == ' ' || c == '\t'
  let rest ← match cs with
    | 'T' :: rest => some rest
    | 't' :: rest => some rest
    | c :: rest => if isSpace c then some (rest.dropWhile isSpace) else none
    | [] => none
  let (hour, rest) ← digitsBetween? 1 2 rest
  let (minute, rest) ← digitsBetween? 2 2 (← after? ':' rest)
  let (second, rest) ← digitsBetween? 2 2 (← after? ':' rest)
  let (fraction, rest) := match rest with
    | '.' :: digits => (digits.takeWhile Char.isDigit, digits.dropWhile Char.isDigit)
    | _ => ([], rest)
  return ((hour, minute, second, fraction), ← zone? rest)

/-- The figures of a text that is shaped like a day or a moment. -/
def Stamp.ofText? (cs : List Char) : Option Stamp := do
  let (year, rest) ← digitsBetween? 4 4 cs
  let (month, rest) ← digitsBetween? 1 2 (← after? '-' rest)
  let (day, rest) ← digitsBetween? 1 2 (← after? '-' rest)
  if rest.isEmpty then return ⟨year, month, day, none, none⟩
  let (time, zone) ← timeAndZone? rest
  return ⟨year, month, day, some time, zone⟩

/-- Whether the text looks like a moment, or like a day in full figures. -/
def looksTimestamp (cs : List Char) : Bool :=
  match Stamp.ofText? cs with
  | some stamp => stamp.time?.isSome || (stamp.month.length == 2 && stamp.day.length == 2)
  | none => false

/-! ### Words -/

/-- The words for truth values, each in its three spellings. -/
def truthWords : List String :=
  ["yes", "Yes", "YES", "no", "No", "NO", "true", "True", "TRUE", "false", "False", "FALSE",
    "on", "On", "ON", "off", "Off", "OFF"]

/-- The words for nothing. -/
def nullWords : List String := ["~", "null", "Null", "NULL", ""]

/-- The tag of a plain scalar by its looks. -/
def Tag.ofPlain (written : String) : Tag :=
  let cs := withoutLastBreak written.toList
  let text := String.ofList cs
  if truthWords.contains text then .bool
  else if looksDecimal cs then .float
  else if looksWhole cs then .int
  else if text = "<<" then .merge
  else if nullWords.contains text then .null
  else if looksTimestamp cs then .timestamp
  else if text = "=" then .default
  else .text

end Narrative.Yaml
