import FieldQuery.Calendar.Date

/-!
Times of day to the nanosecond and moments, which are a time on a date without a time zone. A leap
second has no number of its own: its nanoseconds count on from those of the second before it. It is
the last of its minute in every time that is read, but a time can be made with one after any second.
-/

namespace FieldQuery
namespace Calendar

def nanosPerSecond : Nat := 1000000000

@[ext]
structure ClockTime where
  hour : Nat
  minute : Nat
  second : Nat
  /-- A whole second or more in a leap second. -/
  nanosecond : Nat
  hour_lt : hour < 24
  minute_lt : minute < 60
  second_lt : second < 60
  nanosecond_lt : nanosecond < 2 * nanosPerSecond
  deriving DecidableEq

namespace ClockTime

def midnight : ClockTime :=
  ⟨0, 0, 0, 0, by decide, by decide, by decide, by decide⟩

def ofParts? (hour minute second nanosecond : Nat) : Option ClockTime :=
  if h : hour < 24 ∧ minute < 60 ∧ second < 60 ∧ nanosecond < 2 * nanosPerSecond then
    some ⟨hour, minute, second, nanosecond, h.1, h.2.1, h.2.2.1, h.2.2.2⟩
  else none

/-- A time from its numbers in writing, where the leap second of a minute has the number 60. -/
def ofWritten? (hour minute second fraction : Nat) : Option ClockTime :=
  if fraction < nanosPerSecond then
    if second = 60 then ofParts? hour minute 59 (nanosPerSecond + fraction)
    else ofParts? hour minute second fraction
  else none

/-- Nanoseconds since the second or the leap second began. -/
def fraction (t : ClockTime) : Nat := t.nanosecond % nanosPerSecond

/-- The second in writing. A leap second takes the number after the second it follows. -/
def writtenSecond (t : ClockTime) : Nat := t.second + t.nanosecond / nanosPerSecond

/-- The hour on a dial of twelve, where the first is 12. -/
def hour12 (t : ClockTime) : Nat := if t.hour % 12 = 0 then 12 else t.hour % 12

def isAfternoon (t : ClockTime) : Bool := 12 ≤ t.hour

def secondOfDay (t : ClockTime) : Nat := t.hour * 3600 + t.minute * 60 + t.second

end ClockTime

@[ext]
structure Moment where
  date : Date
  time : ClockTime
  deriving DecidableEq

def Date.atMidnight (d : Date) : Moment := ⟨d, .midnight⟩

/-- The given time of that day, where a day has such a time. -/
def Date.atTime? (d : Date) (hour minute second : Nat) : Option Moment :=
  (ClockTime.ofParts? hour minute second 0).map (Moment.mk d)

/-- The day of a minute that is counted from the midnight of this day and may be of a neighbour. -/
def Date.ofMinute? (d : Date) (minute : Int) : Option Date :=
  if minute < 0 then d.previous? else if minute < 1440 then some d else d.next?

@[simp] theorem Date.atTime?_midnight (d : Date) : d.atTime? 0 0 0 = some d.atMidnight := rfl

namespace Moment

/-- Seconds from the first moment of 1970, leap seconds not counted. -/
def unixSeconds (m : Moment) : Int := (m.date.dayNumber - 719162) * 86400 + m.time.secondOfDay

/-- The moment that many minutes earlier, or later for a negative count. The count must stay below a
day. -/
def minutesEarlier? (m : Moment) (minutes : Int) : Option Moment := do
  let total : Int := m.time.hour * 60 + m.time.minute - minutes
  let date ← m.date.ofMinute? total
  let rest := (total % 1440).toNat
  let time ← ClockTime.ofParts? (rest / 60) (rest % 60) m.time.second m.time.nanosecond
  return ⟨date, time⟩

end Moment
end Calendar
end FieldQuery
