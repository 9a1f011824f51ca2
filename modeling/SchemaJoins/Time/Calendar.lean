/-! # Calendar dates

The Gregorian calendar from year 1 to year 9999, with its numbering of days and
its weeks.
-/

namespace SchemaJoins

structure CalendarDate where
  year : Nat
  month : Nat
  day : Nat
  deriving DecidableEq, Repr, Inhabited

/-- A date with a time of day and, when known, the seconds it is ahead of
universal time. -/
structure Moment where
  date : CalendarDate
  hour : Nat
  minute : Nat
  second : Nat
  microsecond : Nat
  offset : Option Int
  deriving DecidableEq, Repr, Inhabited

namespace CalendarDate

def isLeap (year : Nat) : Bool :=
  year % 4 == 0 && (year % 100 != 0 || year % 400 == 0)

def daysInMonth (year month : Nat) : Nat :=
  match month with
  | 2 => if isLeap year then 29 else 28
  | 4 | 6 | 9 | 11 => 30
  | _ => 31

def yearValid (year : Nat) : Bool := decide (1 ≤ year) && decide (year ≤ 9999)

def monthValid (month : Nat) : Bool := decide (1 ≤ month) && decide (month ≤ 12)

def dayValid (d : CalendarDate) : Bool :=
  decide (1 ≤ d.day) && decide (d.day ≤ daysInMonth d.year d.month)

def isValid (d : CalendarDate) : Bool := yearValid d.year && monthValid d.month && d.dayValid

def daysBeforeYear (year : Nat) : Nat :=
  let y := year - 1
  y * 365 + y / 4 - y / 100 + y / 400

/-- The number of a day, the first of January of year 1 being day `1`. -/
def dayNumber (d : CalendarDate) : Nat :=
  (List.range' 1 (d.month - 1)).foldl (fun days month => days + daysInMonth d.year month)
    (daysBeforeYear d.year) + d.day

/-- The weekday of the first of January, Monday being `0`. -/
def firstWeekday (year : Nat) : Nat := daysBeforeYear year % 7

/-- A year has 53 weeks if it starts on a Thursday, or on a Wednesday and is a
leap year. -/
def weeksInYear (year : Nat) : Nat :=
  if firstWeekday year == 3 || (firstWeekday year == 2 && isLeap year) then 53 else 52

/-- The day number on which week 1 starts, the first of January of year 1 being
day `1`. Week 1 holds the first Thursday of the year. -/
def weekOneStart (year : Nat) : Nat :=
  let first := daysBeforeYear year + 1
  let weekday := firstWeekday year
  if weekday > 3 then first + 7 - weekday else first - weekday

def weekDayValid (year week weekday : Nat) : Bool :=
  yearValid year && decide (1 ≤ week) && decide (week ≤ weeksInYear year) &&
    decide (1 ≤ weekday) && decide (weekday ≤ 7) &&
    decide (weekOneStart year + (week - 1) * 7 + weekday - 1 ≤ daysBeforeYear 10000)

end CalendarDate

/-- The microseconds from the start of the calendar, in universal time if the offset is
known. -/
def Moment.instant (m : Moment) : Int :=
  let minutes := (m.date.dayNumber * 24 + m.hour) * 60 + m.minute
  (minutes * 60 + m.second - m.offset.getD 0) * 1000000 + m.microsecond

end SchemaJoins
