/-
Module: Narrative.Yaml.Scalar.Calendar
Purpose: Days of the calendar, and moments of days.
Main exports: Day, Day.text, Moment, Moment.instant?, Moment.text, Moment.literal
-/

namespace Narrative.Yaml

/-- A number with zeros in front up to the width. -/
def padded (width n : Nat) : String :=
  let digits := Nat.toDigits 10 n
  String.ofList (List.replicate (width - digits.length) '0' ++ digits)

/-! ### Days -/

/-- Whether the year has a leap day. -/
def isLeap (year : Nat) : Bool := year % 4 == 0 && (year % 100 != 0 || year % 400 == 0)

/-- The number of days in a month. -/
def daysIn (year month : Nat) : Nat :=
  if month == 2 then (if isLeap year then 29 else 28)
  else if month == 4 || month == 6 || month == 9 || month == 11 then 30
  else 31

/-- A day of the calendar. -/
structure Day where
  year : Nat
  month : Nat
  day : Nat
deriving Repr, DecidableEq

namespace Day

/-- The number of days since the beginning of the calendar. -/
def ordinal (d : Day) : Nat :=
  let years := d.year - 1
  let months := (List.range (d.month - 1)).foldl (fun n month => n + daysIn d.year (month + 1)) 0
  365 * years + years / 4 - years / 100 + years / 400 + months + d.day

/-- A day in figures. -/
def text (d : Day) : String :=
  padded 4 d.year ++ "-" ++ padded 2 d.month ++ "-" ++ padded 2 d.day

/-- A day as it is written inside a collection. -/
def literal (d : Day) : String :=
  "datetime.date(" ++ toString d.year ++ ", " ++ toString d.month ++ ", " ++ toString d.day ++ ")"

end Day

/-! ### Moments -/

/-- A moment of a day; the offset from universal time is in minutes. -/
structure Moment where
  day : Day
  hour : Nat
  minute : Nat
  second : Nat
  microsecond : Nat
  offset? : Option Int
deriving Repr, DecidableEq

namespace Moment

/-- The microseconds since the beginning of the calendar, if it is known where the moment is. -/
def instant? (m : Moment) : Option Int :=
  m.offset?.map fun offset =>
    (((m.day.ordinal * 24 + m.hour) * 60 + m.minute - offset) * 60 + m.second) * 1000000 +
      m.microsecond

/-- Whether two moments are the same one: where it is known, the offset does not matter. -/
def same (m n : Moment) : Bool :=
  match m.instant?, n.instant? with
  | some a, some b => a == b
  | _, _ => m == n

/-- An offset from universal time. -/
def offsetText (minutes : Int) : String :=
  (if minutes < 0 then "-" else "+") ++ padded 2 (minutes.natAbs / 60) ++ ":" ++
    padded 2 (minutes.natAbs % 60)

/-- A moment in figures. -/
def text (m : Moment) : String :=
  m.day.text ++ " " ++ padded 2 m.hour ++ ":" ++ padded 2 m.minute ++ ":" ++ padded 2 m.second ++
    (if m.microsecond = 0 then "" else "." ++ padded 6 m.microsecond) ++
    (m.offset?.map offsetText).getD ""

/-- An offset other than zero as it is written inside a collection: as whole days, which may be
negative, and the seconds after them. -/
def offsetLiteral (minutes : Int) : String :=
  let days := minutes / (24 * 60)
  let seconds := minutes % (24 * 60) * 60
  let parts := (if days = 0 then [] else ["days=" ++ toString days]) ++
    (if seconds = 0 then [] else ["seconds=" ++ toString seconds])
  "datetime.timedelta(" ++ ", ".intercalate parts ++ ")"

/-- A time zone as it is written inside a collection. -/
def zoneLiteral (minutes : Int) : String :=
  if minutes = 0 then "datetime.timezone.utc"
  else "datetime.timezone(" ++ offsetLiteral minutes ++ ")"

/-- A moment as it is written inside a collection. Seconds and microseconds of zero are left out at
the end. -/
def literal (m : Moment) : String :=
  let figures := [m.day.year, m.day.month, m.day.day, m.hour, m.minute] ++
    (if m.second = 0 ∧ m.microsecond = 0 then [] else [m.second]) ++
    (if m.microsecond = 0 then [] else [m.microsecond])
  let zone := (m.offset?.map fun offset => ", tzinfo=" ++ zoneLiteral offset).getD ""
  "datetime.datetime(" ++ ", ".intercalate (figures.map toString) ++ zone ++ ")"

end Moment

end Narrative.Yaml
