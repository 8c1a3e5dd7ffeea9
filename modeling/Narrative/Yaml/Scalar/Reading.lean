/-
Module: Narrative.Yaml.Scalar.Reading
Purpose: Reading the text of a scalar as its tag says.
Main exports: readBool, readInt, readFloat, readTimestamp, readBinary
-/
import Narrative.Numeral.Decimal
import Narrative.Numeral.Whole
import Narrative.Text.Base64
import Narrative.Text.Case
import Narrative.Yaml.Fault
import Narrative.Yaml.Scalar.Basic
import Narrative.Yaml.Scalar.Shape

namespace Narrative.Yaml

open Numeral (Binary64)

/-- What reading a scalar gives. -/
abbrev Reading (α : Type) := Except ScalarFault α

/-- Reads a truth value in any case. -/
def readBool (text : String) : Reading Bool :=
  match Text.lower text with
  | "yes" | "true" | "on" => .ok true
  | "no" | "false" | "off" => .ok false
  | word => .error (.unknownTruth word)

/-! ### Numbers -/

/-- The greatest number of characters that a complaint repeats of a text in quotes. -/
def maxRepeated : Nat := 200

/-- The complaint that a text is no whole number. -/
def notWhole (base : Nat) (cs : List Char) : ScalarFault :=
  .invalid ("invalid literal for int() with base " ++ toString base ++ ": " ++
    String.ofList ((Text.quote (String.ofList cs)).toList.take maxRepeated))

/-- Reads a whole number in base ten. -/
def readTen (cs : List Char) : Reading Int :=
  match Numeral.readWhole cs with
  | .ok n => .ok n
  | .error .noNumeral => .error (notWhole 10 cs)
  | .error (.tooLong digits) => .error (.invalid (Numeral.tooLongToRead digits))

/-- The value of a digit in bases up to sixteen. -/
def baseDigit? (base : Nat) (c : Char) : Option Nat :=
  let digit? :=
    if 'a' ≤ c && c ≤ 'f' then some (c.toNat - 0x57)
    else if 'A' ≤ c && c ≤ 'F' then some (c.toNat - 0x37)
    else Numeral.digitValue? c
  digit?.filter (· < base)

/-- The letter that may stand after a zero in front of a number in a base. -/
def baseLetter : Nat → Char
  | 2 => 'b'
  | 8 => 'o'
  | _ => 'x'

/-- Reads a whole number in a base, perhaps with a sign and the mark of the base. -/
def readBase (base : Nat) (cs : List Char) : Reading Int :=
  let (negative, body) := Numeral.takeSign (Numeral.trimNumeral cs)
  let digits := match body with
    | '0' :: letter :: rest => if letter.toLower == baseLetter base then rest else body
    | _ => body
  match digits.mapM (baseDigit? base) with
  | none | some [] => .error (notWhole base cs)
  | some values =>
    let n : Int := (values.foldl (fun n d => base * n + d) 0 : Nat)
    .ok (if negative then -n else n)

/-- The value of parts in base sixty. -/
def inSixties (parts : List Int) : Int := parts.foldl (fun n part => 60 * n + part) 0

/-- Reads a whole number in one of the forms of documents. -/
def readInt (text : String) : Reading Int :=
  match text.toList.filter (· != '_') with
  | [] => .error .emptyNumber
  | c :: cs => do
    let body := if c == '+' || c == '-' then cs else c :: cs
    let magnitude ← match body with
      | [] => .error .emptyNumber
      | ['0'] => pure 0
      | '0' :: 'b' :: digits => readBase 2 digits
      | '0' :: 'x' :: digits => readBase 16 digits
      | '0' :: _ => readBase 8 body
      | _ => if body.contains ':' then inSixties <$> (body.splitOn ':').mapM readTen
             else readTen body
    return if c == '-' then -magnitude else magnitude

/-- Reads a decimal. -/
def readPoint (cs : List Char) : Reading Binary64 :=
  match Numeral.readDecimal? cs with
  | some x => .ok x
  | none =>
    .error (.invalid ("could not convert string to float: " ++ Text.quote (String.ofList cs)))

/-- The sum of parts, the last first, each worth sixty times as much as the one before. -/
def sumSixties : (base : Nat) → Binary64 → List Binary64 → Reading Binary64
  | _, sum, [] => .ok sum
  | base, sum, part :: parts =>
    match Binary64.ofNat? base with
    | some unit => sumSixties (60 * base) (sum.add (part.mul unit)) parts
    | none => .error .hugeBase

/-- Reads a number with a point in one of the forms of documents. The number of the node tells what
is no number from all else that is none. -/
def readFloat (node : Nat) (text : String) : Reading Scalar :=
  match (Text.lower (String.ofList (text.toList.filter (· != '_')))).toList with
  | [] => .error .emptyNumber
  | c :: cs => do
    let body := if c == '+' || c == '-' then cs else c :: cs
    let signed (magnitude : Binary64) : Scalar :=
      match if c == '-' then magnitude.negate else magnitude with
      | .nan => .nan (some node)
      | value => .float value
    match String.ofList body with
    | ".inf" => return signed (.infinite false)
    | ".nan" => return .nan none
    | _ =>
      if body.contains ':' then
        let parts ← (body.splitOn ':').mapM readPoint
        return signed (← sumSixties 1 (.zero false) parts.reverse)
      else return signed (← readPoint body)

/-! ### Days and moments -/

/-- The number that digits write. -/
def figure (digits : List Char) : Nat := digits.foldl (fun n c => 10 * n + (c.toNat - 0x30)) 0

/-- Refuses what does not hold. -/
def check (holds : Bool) (message : String) : Reading Unit :=
  if holds then .ok () else .error (.invalid message)

/-- A day of the calendar. -/
def readDay (stamp : Stamp) : Reading Day := do
  let day : Day := ⟨figure stamp.year, figure stamp.month, figure stamp.day⟩
  check (1 ≤ day.year) ("year " ++ toString day.year ++ " is out of range")
  check (1 ≤ day.month && day.month ≤ 12) "month must be in 1..12"
  check (1 ≤ day.day && day.day ≤ daysIn day.year day.month) "day is out of range for month"
  return day

/-- An offset from universal time in minutes, of less than a day. -/
def readZone (zone : Bool × List Char × List Char) : Reading Int := do
  let (west, hours, minutes) := zone
  let size : Int := 60 * figure hours + figure minutes
  let offset := if west then -size else size
  check (size < 24 * 60) ("offset must be a timedelta strictly between " ++
    "-timedelta(hours=24) and timedelta(hours=24), not " ++ Moment.offsetLiteral offset ++ ".")
  return offset

/-- Reads a day or a moment. -/
def readTimestamp (text : String) : Reading Scalar :=
  match Stamp.ofText? (withoutLastBreak text.toList) with
  | none => .error .notADate
  | some stamp =>
    match stamp.time? with
    | none => do return .day (← readDay stamp)
    | some (hour, minute, second, fraction) => do
      let offset? ← stamp.zone?.mapM readZone
      let day ← readDay stamp
      let digits := fraction.take 6
      let microsecond := figure (digits ++ List.replicate (6 - digits.length) '0')
      check (figure hour < 24) "hour must be in 0..23"
      check (figure minute < 60) "minute must be in 0..59"
      check (figure second < 60) "second must be in 0..59"
      return .moment ⟨day, figure hour, figure minute, figure second, microsecond, offset?⟩

/-! ### Bytes -/

/-- A character as it is named in a complaint. -/
def charName (c : Char) : String :=
  let (letter, width) :=
    if c.toNat < 0x100 then ('x', 2) else if c.toNat < 0x10000 then ('u', 4) else ('U', 8)
  String.ofList (['\'', '\\', letter] ++ Text.hexDigits width c.toNat ++ ['\''])

/-- The complaint about the first run of characters that are no single byte of seven bits, if there
is one. -/
def wideRun? (cs : List Char) : Option String :=
  let isPlain (c : Char) : Bool := c.toNat < 0x80
  let start := (cs.takeWhile isPlain).length
  match (cs.drop start).takeWhile (!isPlain ·) with
  | [] => none
  | [c] => some ("character " ++ charName c ++ " in position " ++ toString start)
  | run =>
    some ("characters in position " ++ toString start ++ "-" ++ toString (start + run.length - 1))

/-- Reads bytes that are written in characters of six bits each. -/
def readBinary (text : String) : Except String (List Nat) :=
  match wideRun? text.toList with
  | some run =>
    .error ("failed to convert base64 data into ascii: 'ascii' codec can't encode " ++ run ++
      ": ordinal not in range(128)")
  | none =>
    (Text.decodeBase64 text.toList).mapError fun fault =>
      "failed to decode base64 data: " ++ fault.message

end Narrative.Yaml
