import Testbed.Time.Span

/-!
# Dates and times of day

This file supplies the date and the time of day of a number of seconds since the
beginning of 1970, by the rules of the Gregorian calendar.  Years are counted from
the first of March, so that a leap day is the last day of its year and the days
before each month do not depend on the year.
-/

namespace Testbed

/-- A day of the calendar. -/
structure Date where
  year : Nat
  month : Nat
  day : Nat
  deriving DecidableEq, Repr

namespace Date

/-- The days of a cycle of four hundred years. -/
def cycleDays : Nat :=
  146097

/-- The days from the first of March of the year 0 to the beginning of 1970. -/
def epochDays : Nat :=
  719468

/-- The date of a number of days since the beginning of 1970. -/
def ofDays (days : Nat) : Date :=
  let shifted := days + epochDays
  let cycle := shifted / cycleDays
  let dayOfCycle := shifted % cycleDays
  let yearOfCycle :=
    (dayOfCycle - dayOfCycle / 1460 + dayOfCycle / 36524 - dayOfCycle / 146096) / 365
  let dayOfYear :=
    dayOfCycle - (365 * yearOfCycle + yearOfCycle / 4 - yearOfCycle / 100)
  let monthFromMarch := (5 * dayOfYear + 2) / 153
  let day := dayOfYear - (153 * monthFromMarch + 2) / 5 + 1
  let month := if monthFromMarch < 10 then monthFromMarch + 3 else monthFromMarch - 9
  let year := cycle * 400 + yearOfCycle + if month ≤ 2 then 1 else 0
  ⟨year, month, day⟩

/-- Whether a year has a leap day. -/
def isLeapYear (year : Nat) : Bool :=
  year % 4 = 0 && (year % 100 ≠ 0 || year % 400 = 0)

/-- The days of a month, counted from 1. -/
def daysInMonth (year month : Nat) : Nat :=
  if month = 2 then
    if isLeapYear year then 29 else 28
  else if month = 4 ∨ month = 6 ∨ month = 9 ∨ month = 11 then
    30
  else
    31

/-- A number with leading zeros up to a width. -/
def padded (width value : Nat) : String :=
  String.ofList (Span.paddedDigits width value)

/-- A date as year, month and day. -/
def render (date : Date) : String :=
  padded 4 date.year ++ "-" ++ padded 2 date.month ++ "-" ++ padded 2 date.day

end Date

/-- The date and the time of day, with microseconds.  Nanoseconds of a second and
more belong to a leap second. -/
def renderTime (seconds nanos : Nat) : String :=
  let second := seconds % 60 + nanos / 1000000000
  (Date.ofDays (seconds / 86400)).render ++ " "
    ++ Date.padded 2 (seconds / 3600 % 24) ++ ":" ++ Date.padded 2 (seconds / 60 % 60)
    ++ ":" ++ Date.padded 2 second ++ "."
    ++ Date.padded 6 (nanos % 1000000000 / 1000)

end Testbed
