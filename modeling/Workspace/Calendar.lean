/-
Workspace.Calendar — dates and moments of the Gregorian calendar.

A `Date` and a `Moment` are built only through `Date.of` and `Moment.of`,
which refuse the first field that is out of range and say which one it is.
A moment may carry its distance from universal time; two moments that do
are the same when they name the same instant.
-/
import Workspace.Decimal.Float

namespace Workspace

/-- Why a date or a moment does not exist. -/
inductive CalendarError where
  | year (year : Nat)
  | month
  | day
  | hour
  | minute
  | second
  | offset (minutes : Int)
  deriving DecidableEq, Repr

structure Date where
  year : Nat
  month : Nat
  day : Nat
  deriving DecidableEq, Repr

/-- A date with a time of day, and the minutes by which local time is ahead
of universal time if that is known. -/
structure Moment where
  date : Date
  hour : Nat
  minute : Nat
  second : Nat
  microsecond : Nat
  offset : Option Int
  deriving DecidableEq, Repr

def isLeapYear (year : Nat) : Bool :=
  year % 4 = 0 && (year % 100 ≠ 0 || year % 400 = 0)

def daysInMonth (year month : Nat) : Nat :=
  if month = 2 then (if isLeapYear year then 29 else 28)
  else if month = 4 ∨ month = 6 ∨ month = 9 ∨ month = 11 then 30
  else 31

/-- The date with these fields, if there is one. -/
def Date.of (year month day : Nat) : Except CalendarError Date :=
  if year = 0 ∨ 9999 < year then .error (.year year)
  else if month = 0 ∨ 12 < month then .error .month
  else if day = 0 ∨ daysInMonth year month < day then .error .day
  else .ok ⟨year, month, day⟩

/-- An offset of less than a day in either direction. -/
def checkOffset (minutes : Int) : Except CalendarError Int :=
  if minutes.natAbs < 24 * 60 then .ok minutes else .error (.offset minutes)

/-- The moment with these fields, if there is one; `microsecond` is below a
million. -/
def Moment.of (year month day hour minute second microsecond : Nat) (offset : Option Int) :
    Except CalendarError Moment := do
  let date ← Date.of year month day
  if 23 < hour then throw .hour
  if 59 < minute then throw .minute
  if 59 < second then throw .second
  return ⟨date, hour, minute, second, microsecond, offset⟩

/-- The days from the start of the calendar to a date. -/
def Date.dayNumber (d : Date) : Nat :=
  let y := d.year - 1
  365 * y + y / 4 - y / 100 + y / 400
    + (List.range (d.month - 1)).foldr (fun m days => daysInMonth d.year (m + 1) + days) 0 + d.day

/-- The microseconds from the start of the calendar, in local time. -/
def Moment.localMicroseconds (m : Moment) : Int :=
  ((m.date.dayNumber * 86400 + m.hour * 3600 + m.minute * 60 + m.second) * 1000000
    + m.microsecond : Nat)

/-- Two moments are the same: field by field without offsets, as instants with. -/
def Moment.sameAs (a b : Moment) : Bool :=
  match a.offset, b.offset with
  | none, none => a = b
  | some x, some y =>
    a.localMicroseconds - x * 60000000 = b.localMicroseconds - y * 60000000
  | _, _ => false

/-! ## Texts -/

/-- A span of minutes, spelled as days and seconds. -/
def spanText (minutes : Int) : String :=
  let seconds := minutes * 60
  let days := seconds / 86400
  let rest := seconds % 86400
  let parts :=
    (if days = 0 then [] else ["days=" ++ Decimal.intText days])
      ++ (if rest = 0 then [] else ["seconds=" ++ Decimal.intText rest])
  let inner := if parts = [] then "0" else ", ".intercalate parts
  "datetime.timedelta(" ++ inner ++ ")"

def CalendarError.message : CalendarError → String
  | .year y => "year " ++ String.ofList (Decimal.natDigits y) ++ " is out of range"
  | .month => "month must be in 1..12"
  | .day => "day is out of range for month"
  | .hour => "hour must be in 0..23"
  | .minute => "minute must be in 0..59"
  | .second => "second must be in 0..59"
  | .offset minutes =>
    "offset must be a timedelta strictly between -timedelta(hours=24) and "
      ++ "timedelta(hours=24), not " ++ spanText minutes ++ "."

private def fieldsText (fields : List Nat) : String :=
  ", ".intercalate (fields.map fun n => String.ofList (Decimal.natDigits n))

/-- A date as it is shown in messages. -/
def Date.shown (d : Date) : String :=
  "datetime.date(" ++ fieldsText [d.year, d.month, d.day] ++ ")"

/-- A moment as it is shown in messages: seconds and smaller are left out
when they are zero. -/
def Moment.shown (m : Moment) : String :=
  let fields := [m.date.year, m.date.month, m.date.day, m.hour, m.minute]
    ++ (if m.second = 0 ∧ m.microsecond = 0 then [] else [m.second])
    ++ (if m.microsecond = 0 then [] else [m.microsecond])
  let zone :=
    match m.offset with
    | none => ""
    | some 0 => ", tzinfo=datetime.timezone.utc"
    | some minutes => ", tzinfo=datetime.timezone(" ++ spanText minutes ++ ")"
  "datetime.datetime(" ++ fieldsText fields ++ zone ++ ")"

end Workspace
