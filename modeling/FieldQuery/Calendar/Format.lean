import FieldQuery.Calendar.Pattern

/-!
Writing a moment by a pattern. Every item but those of the time zone has a text, so a pattern
without them writes every moment.
-/

namespace FieldQuery
namespace Calendar

def monthNames : List String :=
  ["January", "February", "March", "April", "May", "June", "July", "August", "September",
   "October", "November", "December"]

def weekdayNames : List String :=
  ["Monday", "Tuesday", "Wednesday", "Thursday", "Friday", "Saturday", "Sunday"]

namespace Moment

def monthNameChars (m : Moment) : List Char := (monthNames.getD (m.date.month - 1) "").toList

def weekdayNameChars (m : Moment) : List Char := (weekdayNames.getD m.date.daysFromMonday "").toList

/-- Centuries are taken modulo 256 and then written in two places, so that the tens place of a far
century is not a digit. -/
def componentChars (m : Moment) (pad : Pad) : Component → List Char
  | .year => yearChars pad m.date.year
  | .century => twoPlaces pad (m.date.year / 100 % 256).toNat
  | .yearOfCentury => twoPlaces pad (m.date.year % 100).toNat
  | .weekYear => yearChars pad m.date.weekDate.year
  | .weekYearOfCentury => twoPlaces pad (m.date.weekDate.year % 100).toNat
  | .quarter => [placeChar m.date.quarter]
  | .month => twoPlaces pad m.date.month
  | .day => twoPlaces pad m.date.day
  | .dayOfYear => paddedNumber pad 3 false m.date.dayOfYear
  | .weekFromSunday => twoPlaces pad m.date.weekFromSunday
  | .weekFromMonday => twoPlaces pad m.date.weekFromMonday
  | .week => twoPlaces pad m.date.weekDate.week
  | .daysFromSunday => [placeChar m.date.daysFromSunday]
  | .weekday => [placeChar (m.date.daysFromMonday + 1)]
  | .hour => twoPlaces pad m.time.hour
  | .hour12 => twoPlaces pad m.time.hour12
  | .minute => twoPlaces pad m.time.minute
  | .second => twoPlaces pad m.time.writtenSecond
  | .nanosecond => paddedNumber pad 9 false m.time.fraction
  | .unixSeconds => paddedNumber pad 9 false m.unixSeconds

/-- The leading digits of the fraction, the rest cut off. -/
def fractionChars (m : Moment) (digits : Nat) : List Char :=
  (zeroPadded 9 m.time.fraction).take digits

def shortestFractionChars (m : Moment) : List Char :=
  if m.time.fraction = 0 then []
  else if m.time.fraction % 1000000 = 0 then '.' :: m.fractionChars 3
  else if m.time.fraction % 1000 = 0 then '.' :: m.fractionChars 6
  else '.' :: m.fractionChars 9

/-- Items of the time zone cannot be written. -/
def itemChars? (m : Moment) : PatternItem → Option (List Char)
  | .literal c => some [c]
  | .number component pad => some (m.componentChars pad component)
  | .monthName => some m.monthNameChars
  | .shortMonthName => some (m.monthNameChars.take 3)
  | .weekdayName => some m.weekdayNameChars
  | .shortWeekdayName => some (m.weekdayNameChars.take 3)
  | .halfDay true => some (if m.time.isAfternoon then ['P', 'M'] else ['A', 'M'])
  | .halfDay false => some (if m.time.isAfternoon then ['p', 'm'] else ['a', 'm'])
  | .shortestFraction => some m.shortestFractionChars
  | .fraction true digits => some ('.' :: m.fractionChars digits)
  | .fraction false digits => some (m.fractionChars digits)
  | .zone => none

def patternChars? (m : Moment) : Pattern → Option (List Char)
  | [] => some []
  | item :: items => do
    let first ← m.itemChars? item
    let rest ← m.patternChars? items
    return first ++ rest

/-- Writes by a pattern given as text; fails on what is no pattern and on items of the time zone. -/
def format? (m : Moment) (pattern : String) : Option String :=
  (Pattern.read? pattern.toList).bind fun items => (m.patternChars? items).map String.ofList

end Moment
end Calendar
end FieldQuery
