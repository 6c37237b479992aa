import Regen.Text.Blank

/-!
# Dates and times of day

A day of the calendar, a time of day to the microsecond, or both together, with or without an offset
from universal time. `toText` writes them with the largest unit first; microseconds are written only
if there are any.
-/

namespace Regen

open Text

/-- A day of the calendar. -/
structure Date where
  year : Nat
  month : Nat
  day : Nat
  deriving Repr, DecidableEq

/-- A time of day. -/
structure Clock where
  hour : Nat
  minute : Nat
  second : Nat
  microsecond : Nat
  deriving Repr, DecidableEq

/-- A point in time, as far as it was written down. -/
inductive Moment
  | date (d : Date)
  | clock (c : Clock)
  /-- A day and a time of day, perhaps with the minutes that local time is ahead. -/
  | instant (d : Date) (c : Clock) (offset : Option Int)
  deriving Repr, DecidableEq

/-- A number with zeros in front of it up to a width. -/
def padded (width n : Nat) : Text :=
  let digits := Nat.toDigits 10 n
  List.replicate (width - digits.length) '0' ++ digits

namespace Date

/-- The year has a day in February more. -/
def isLeapYear (y : Nat) : Bool := y % 4 = 0 && (y % 100 ≠ 0 || y % 400 = 0)

/-- The number of days of a month. -/
def monthLength (y m : Nat) : Nat :=
  if m = 2 then (if isLeapYear y then 29 else 28)
  else if m = 4 ∨ m = 6 ∨ m = 9 ∨ m = 11 then 30
  else 31

/-- The calendar has the day; it starts with the year 1. -/
def isValid (d : Date) : Bool :=
  1 ≤ d.year && 1 ≤ d.month && d.month ≤ 12 && 1 ≤ d.day && d.day ≤ monthLength d.year d.month

/-- The day that comes a number of days after the first of January 1970. Years are counted from
their first of March, so that a leap day ends its year, in rounds of 400 years. -/
def ofDayNumber (n : Nat) : Date :=
  let days := n + 719468
  let round := days / 146097
  let inRound := days % 146097
  let year := (inRound - inRound / 1460 + inRound / 36524 - inRound / 146096) / 365
  let inYear := inRound - (365 * year + year / 4 - year / 100)
  let march := (5 * inYear + 2) / 153
  let month := if march < 10 then march + 3 else march - 9
  { year := 400 * round + year + if month ≤ 2 then 1 else 0
    month := month
    day := inYear - (153 * march + 2) / 5 + 1 }

/-- Writes a day. -/
def toText (d : Date) : Text :=
  padded 4 d.year ++ '-' :: padded 2 d.month ++ '-' :: padded 2 d.day

example : ofDayNumber 0 = ⟨1970, 1, 1⟩ := by decide
example : [19781, 19782, 19783].map ofDayNumber = [⟨2024, 2, 28⟩, ⟨2024, 2, 29⟩, ⟨2024, 3, 1⟩] := by
  decide
example : ofDayNumber 47540 = ⟨2100, 2, 28⟩ ∧ ofDayNumber 47541 = ⟨2100, 3, 1⟩ := by decide

end Date

namespace Clock

/-- Writes a time of day. -/
def toText (c : Clock) : Text :=
  padded 2 c.hour ++ ':' :: padded 2 c.minute ++ ':' :: padded 2 c.second ++
    if c.microsecond = 0 then [] else '.' :: padded 6 c.microsecond

/-- The time of day that is a number of microseconds after midnight. -/
def ofMicroseconds (n : Nat) : Clock :=
  let seconds := n / 1000000
  { hour := seconds / 3600 % 24
    minute := seconds / 60 % 60
    second := seconds % 60
    microsecond := n % 1000000 }

end Clock

namespace Moment

/-- Writes an offset in minutes. -/
def offsetText (o : Int) : Text :=
  (if o < 0 then '-' else '+') :: padded 2 (o.natAbs / 60) ++ ':' :: padded 2 (o.natAbs % 60)

/-- Writes a moment. -/
def toText : Moment → Text
  | date d => d.toText
  | clock c => c.toText
  | instant d c offset => d.toText ++ ' ' :: c.toText ++ (offset.map offsetText).getD []

/-- Stamps a number of microseconds after the start of 1970, in universal time. -/
def stamp (microseconds : Nat) : Text :=
  (Date.ofDayNumber (microseconds / 86400000000)).toText ++
    'T' :: (Clock.ofMicroseconds microseconds).toText ++ offsetText 0

example : String.ofList (stamp 1709210096000042) = "2024-02-29T12:34:56.000042+00:00" := by decide

/-! ## As an expression -/

/-- Numbers with commas between them. -/
def commaSeparated (ns : List Nat) : Text :=
  (", ".toList).intercalate (ns.map fun n => Nat.toDigits 10 n)

/-- The numbers of a time of day, without what is zero at the end of it. -/
def clockFields (c : Clock) : List Nat :=
  if c.microsecond ≠ 0 then [c.hour, c.minute, c.second, c.microsecond]
  else if c.second ≠ 0 then [c.hour, c.minute, c.second]
  else [c.hour, c.minute]

/-- An offset as an expression: a length of time of less than a day that is counted from a number
of whole days. -/
def offsetLiteral (o : Int) : Text :=
  if o = 0 then "datetime.timezone.utc".toList
  else
    let seconds := (o * 60 % 86400).toNat
    "datetime.timezone(datetime.timedelta(".toList ++
      (if o < 0 then "days=-1, ".toList else []) ++ "seconds=".toList ++
      Nat.toDigits 10 seconds ++ "))".toList

/-- A moment as the expression that builds it. -/
def literal : Moment → Text
  | date d => "datetime.date(".toList ++ commaSeparated [d.year, d.month, d.day] ++ [')']
  | clock c => "datetime.time(".toList ++ commaSeparated (clockFields c) ++ [')']
  | instant d c offset =>
    "datetime.datetime(".toList ++ commaSeparated ([d.year, d.month, d.day] ++ clockFields c) ++
      (offset.map fun o => ", tzinfo=".toList ++ offsetLiteral o).getD [] ++ [')']

example : String.ofList (instant ⟨1979, 5, 27⟩ ⟨7, 32, 0, 0⟩ (some (-420))).toText =
    "1979-05-27 07:32:00-07:00" := by decide
example : String.ofList (instant ⟨1979, 5, 27⟩ ⟨7, 32, 0, 0⟩ (some (-420))).literal =
    "datetime.datetime(1979, 5, 27, 7, 32, tzinfo=datetime.timezone(" ++
      "datetime.timedelta(days=-1, seconds=61200)))" := by decide

end Moment

end Regen
