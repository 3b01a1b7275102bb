/-!
# Dates and times of day

Dates of the Gregorian calendar, extended to all years between -262143 and 262142, and times of day to the second.
-/

namespace ModelCatalog

/-- A day of the calendar. -/
structure Date where
  year : Int
  month : Nat
  day : Nat
  deriving DecidableEq, Repr

/-- A time of day. -/
structure DayTime where
  hour : Nat
  minute : Nat
  second : Nat
  deriving DecidableEq, Repr

/-- A point of time: a date, a time of day, or both. -/
inductive Moment where
  | date (date : Date)
  | time (time : DayTime)
  | both (date : Date) (time : DayTime)
  deriving DecidableEq, Repr

/-- A part of a point of time. -/
inductive MomentPart where
  | date
  | year
  | month
  | day
  | weekDay
  | hour
  | minute
  | second
  deriving DecidableEq, Repr

namespace Date

def isLeap (year : Int) : Bool := year % 4 = 0 && (year % 100 ≠ 0 || year % 400 = 0)

/-- How many days a month has. -/
def monthLength (year : Int) (month : Nat) : Nat :=
  if month = 2 then (if isLeap year then 29 else 28)
  else if month = 4 ∨ month = 6 ∨ month = 9 ∨ month = 11 then 30
  else 31

/-- The date with the given parts, if the calendar has it. -/
def of? (year : Int) (month day : Nat) : Option Date :=
  if -262143 ≤ year ∧ year ≤ 262142 ∧ 1 ≤ month ∧ month ≤ 12 ∧ 1 ≤ day ∧ day ≤ monthLength year month then
    some { year, month, day }
  else none

/-- How many days of the year come before a month. -/
def daysBefore (year : Int) (month : Nat) : Nat :=
  ((List.range (month - 1)).map fun m => monthLength year (m + 1)).foldl (· + ·) 0

/-- How many days there are from the first of January of the year 1 to the date. -/
def dayNumber (d : Date) : Int :=
  let past := d.year - 1
  365 * past + past / 4 - past / 100 + past / 400 + daysBefore d.year d.month + (d.day - 1)

/-- The day of the week, from Sunday as 1 to Saturday as 7. The first of January of the year 1 was a Monday. -/
def weekDay (d : Date) : Nat := ((d.dayNumber + 1) % 7).toNat + 1

/-- A number with zeros in front of it up to a width. -/
def padded (width n : Nat) : String :=
  let digits := Nat.toDigits 10 n
  String.ofList (List.replicate (width - digits.length) '0' ++ digits)

/-- The year in four digits or more, with a sign outside the years 0 to 9999. -/
def yearText (year : Int) : String :=
  if year < 0 then "-" ++ padded 4 year.natAbs
  else if year < 10000 then padded 4 year.natAbs
  else "+" ++ padded 4 year.natAbs

/-- The date in the form year, month, day. -/
def text (d : Date) : String := yearText d.year ++ "-" ++ padded 2 d.month ++ "-" ++ padded 2 d.day

end Date

namespace DayTime

/-- The time of day with the given parts. The second 60 stands for a leap second, which counts as part of the second 59. -/
def of? (hour minute second : Nat) : Option DayTime :=
  if hour < 24 ∧ minute < 60 ∧ second ≤ 60 then some { hour, minute, second := min second 59 } else none

end DayTime

namespace Moment

def date? : Moment → Option Date
  | date d | both d _ => some d
  | time _ => none

def time? : Moment → Option DayTime
  | time t | both _ t => some t
  | date _ => none

end Moment

end ModelCatalog
