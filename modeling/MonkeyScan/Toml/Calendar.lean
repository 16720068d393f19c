import MonkeyScan.Text.Basic

/-!
# `MonkeyScan.Toml.Calendar`: dates and times of day

The calendar values of a configuration file, and how they are shown when one
stands where it should not.
-/

set_option autoImplicit false

namespace MonkeyScan.Toml

/-- A calendar date. -/
structure Date where
  year : Nat
  month : Nat
  day : Nat
  deriving DecidableEq, Repr

namespace Date

/-- Whether a year has a 29th of February. -/
def isLeap (year : Nat) : Bool :=
  year % 4 == 0 && (year % 100 != 0 || year % 400 == 0)

/-- The length of a month. -/
def daysIn (year month : Nat) : Nat :=
  if month = 2 then (if isLeap year then 29 else 28)
  else if month = 4 ∨ month = 6 ∨ month = 9 ∨ month = 11 then 30
  else 31

/-- Whether the date is in the calendar, whose first year is 1. -/
def isValid (d : Date) : Bool :=
  1 ≤ d.year && 1 ≤ d.month && d.month ≤ 12 && 1 ≤ d.day && d.day ≤ daysIn d.year d.month

end Date

/-- A time of day, down to the microsecond. -/
structure ClockTime where
  hour : Nat
  minute : Nat
  second : Nat
  microsecond : Nat
  deriving DecidableEq, Repr

/-! ### Showing -/

/-- Numbers with commas between them. -/
def commaSeparated (numbers : List Nat) : Text :=
  [',', ' '].intercalate (numbers.map Text.ofNat)

/-- The parts of a time that are shown: seconds and microseconds are left out
from the end while they are zero. -/
def ClockTime.parts (t : ClockTime) : List Nat :=
  if t.microsecond ≠ 0 then [t.hour, t.minute, t.second, t.microsecond]
  else if t.second ≠ 0 then [t.hour, t.minute, t.second]
  else [t.hour, t.minute]

/-- The parts of a date. -/
def Date.parts (d : Date) : List Nat :=
  [d.year, d.month, d.day]

/-- A date as it is shown. -/
def Date.shown (d : Date) : Text :=
  "datetime.date(".toList ++ commaSeparated d.parts ++ [')']

/-- A time as it is shown. -/
def ClockTime.shown (t : ClockTime) : Text :=
  "datetime.time(".toList ++ commaSeparated t.parts ++ [')']

/-- An offset from universal time, in minutes, as it is shown: by whole days
towards the past and the seconds after them. -/
def zoneShown (minutes : Int) : Text :=
  if minutes = 0 then "datetime.timezone.utc".toList
  else
    let days := if minutes < 0 then "days=-1, ".toList else []
    let seconds := if minutes < 0 then 86400 + 60 * minutes else 60 * minutes
    "datetime.timezone(datetime.timedelta(".toList ++ days ++ "seconds=".toList
      ++ Text.ofInt seconds ++ "))".toList

/-- A date with a time of day, and with an offset if it has one, as it is
shown. -/
def dateTimeShown (d : Date) (t : ClockTime) (zone : Option Int) : Text :=
  let zoneText := match zone with
    | none => []
    | some minutes => ", tzinfo=".toList ++ zoneShown minutes
  "datetime.datetime(".toList ++ commaSeparated (d.parts ++ t.parts) ++ zoneText ++ [')']

end MonkeyScan.Toml
