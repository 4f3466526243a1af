/-!
Dates of the Gregorian calendar, extended to all years and with a year zero. A `Date` is always a
day that exists, within a fixed span of years. Weekdays, weeks and day numbers are derived from it.
-/

namespace FieldQuery
namespace Calendar

def isLeapYear (year : Int) : Bool :=
  year % 4 == 0 && (year % 100 != 0 || year % 400 == 0)

/-- No month but the twelve has days. -/
def monthLength (year : Int) : Nat → Nat
  | 1 | 3 | 5 | 7 | 8 | 10 | 12 => 31
  | 4 | 6 | 9 | 11 => 30
  | 2 => if isLeapYear year then 29 else 28
  | _ => 0

/-- Days from the first of January to the first of the given month. -/
def daysBeforeMonth (year : Int) : Nat → Nat
  | 0 | 1 => 0
  | month + 2 => daysBeforeMonth year (month + 1) + monthLength year (month + 1)

def firstYear : Int := -262143

def lastYear : Int := 262142

structure Date where
  year : Int
  month : Nat
  day : Nat
  year_mem : firstYear ≤ year ∧ year ≤ lastYear
  day_mem : 1 ≤ day ∧ day ≤ monthLength year month
  deriving DecidableEq

namespace Date

def ofParts? (year : Int) (month day : Nat) : Option Date :=
  if h : (firstYear ≤ year ∧ year ≤ lastYear) ∧ 1 ≤ day ∧ day ≤ monthLength year month then
    some ⟨year, month, day, h.1, h.2⟩
  else none

/-- Nothing follows the last day of the last year. -/
def next? (d : Date) : Option Date :=
  ofParts? d.year d.month (d.day + 1)
    <|> ofParts? d.year (d.month + 1) 1
    <|> ofParts? (d.year + 1) 1 1

def previous? (d : Date) : Option Date :=
  ofParts? d.year d.month (d.day - 1)
    <|> ofParts? d.year (d.month - 1) (monthLength d.year (d.month - 1))
    <|> ofParts? (d.year - 1) 12 31

/-- The first of January has number one. -/
def dayOfYear (d : Date) : Nat := daysBeforeMonth d.year d.month + d.day

def quarter (d : Date) : Nat := (d.month + 2) / 3

end Date

/-- Days from the first of January of year one to that of the given year. -/
def daysBeforeYear (year : Int) : Int :=
  365 * (year - 1) + (year - 1) / 4 - (year - 1) / 100 + (year - 1) / 400

/-- Days of the week counted from Monday, which is zero. The first day of year one is a Monday. -/
def weekdayOfDayNumber (n : Int) : Nat := (n % 7).toNat

namespace Date

/-- Days since the first of January of year one. -/
def dayNumber (d : Date) : Int := daysBeforeYear d.year + d.dayOfYear - 1

def daysFromMonday (d : Date) : Nat := weekdayOfDayNumber d.dayNumber

def daysFromSunday (d : Date) : Nat := (d.daysFromMonday + 1) % 7

/-- Weeks begin on Sunday; the days before the first one belong to week zero. -/
def weekFromSunday (d : Date) : Nat := (d.dayOfYear + 6 - d.daysFromSunday) / 7

def weekFromMonday (d : Date) : Nat := (d.dayOfYear + 6 - d.daysFromMonday) / 7

end Date

/-- Week years have 53 weeks when they begin on a Thursday, or on a Wednesday in a leap year. -/
def weeksInYear (year : Int) : Nat :=
  match weekdayOfDayNumber (daysBeforeYear year) with
  | 3 => 53
  | 2 => if isLeapYear year then 53 else 52
  | _ => 52

/-- A week belongs to the year that holds its Thursday. -/
structure WeekDate where
  year : Int
  week : Nat
  deriving DecidableEq

def Date.weekDate (d : Date) : WeekDate :=
  let week := (d.dayOfYear + 9 - d.daysFromMonday) / 7
  if week = 0 then ⟨d.year - 1, weeksInYear (d.year - 1)⟩
  else if week > weeksInYear d.year then ⟨d.year + 1, 1⟩
  else ⟨d.year, week⟩

end Calendar
end FieldQuery
