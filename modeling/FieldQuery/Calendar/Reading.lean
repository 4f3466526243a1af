import FieldQuery.Calendar.Moment
import FieldQuery.Text.Reading

/-!
Dates and moments as people write them, and internet timestamps. Numbers may be short and may have
blanks before them; the year has up to four digits, or any number of digits after a sign. The
characters between the numbers are fixed, and the whole text has to be used up. A timestamp has
numbers of fixed width, an optional fraction of a second and the distance from Coordinated Universal
Time, and the moment read is the one in universal time. Only the ten ASCII digits count here.
-/

namespace FieldQuery
namespace Calendar

open Text (expect complete skipBlanks)

/-- A number of at least one digit and at most `most`, and the text after it. -/
def readDigits (most : Nat) (cs : List Char) : Option (Nat × List Char) :=
  match (cs.takeWhile Char.isDigit).take most with
  | [] => none
  | d :: ds => some (Nat.ofDigitChars 10 (d :: ds) 0, cs.drop (ds.length + 1))

/-- A number of exactly `width` digits, and the text after it. -/
def readFixed (width : Nat) (cs : List Char) : Option (Nat × List Char) :=
  let ds := cs.take width
  if ds.length = width ∧ ds.all Char.isDigit then
    some (Nat.ofDigitChars 10 ds 0, cs.drop width)
  else none

def readYear (cs : List Char) : Option (Int × List Char) :=
  match skipBlanks cs with
  | '-' :: rest => (readDigits rest.length rest).map fun r => (-(r.1 : Int), r.2)
  | '+' :: rest => (readDigits rest.length rest).map fun r => ((r.1 : Int), r.2)
  | rest => (readDigits 4 rest).map fun r => ((r.1 : Int), r.2)

/-- One of the numbers after the year: one or two digits. -/
def readPart (cs : List Char) : Option (Nat × List Char) := readDigits 2 (skipBlanks cs)

def readYearMonthDay (cs : List Char) : Option (Date × List Char) := do
  let (year, cs) ← readYear cs
  let cs ← expect '-' cs
  let (month, cs) ← readPart cs
  let cs ← expect '-' cs
  let (day, cs) ← readPart cs
  let date ← Date.ofParts? year month day
  return (date, cs)

def readHourMinute (cs : List Char) : Option ((Nat × Nat) × List Char) := do
  let (hour, cs) ← readPart cs
  let cs ← expect ':' cs
  let (minute, cs) ← readPart cs
  return ((hour, minute), cs)

def readHourMinuteSecond (cs : List Char) : Option (ClockTime × List Char) := do
  let ((hour, minute), cs) ← readHourMinute cs
  let cs ← expect ':' cs
  let (second, cs) ← readPart cs
  let time ← ClockTime.ofWritten? hour minute second 0
  return (time, cs)

/-- A date and nothing else. -/
def Date.read? (cs : List Char) : Option Date := readYearMonthDay cs >>= complete

namespace Moment

/-- A date, the letter T, and a time with seconds. -/
def readJoined? (cs : List Char) : Option Moment := do
  let (date, cs) ← readYearMonthDay cs
  let cs ← expect 'T' cs
  let (time, cs) ← readHourMinuteSecond cs
  complete (⟨date, time⟩, cs)

/-- A date and a time with seconds, with any number of blanks between them. -/
def readSpaced? (cs : List Char) : Option Moment := do
  let (date, cs) ← readYearMonthDay cs
  let (time, cs) ← readHourMinuteSecond (skipBlanks cs)
  complete (⟨date, time⟩, cs)

/-- A date, the letter T, and a time to the minute. -/
def readToMinute? (cs : List Char) : Option Moment := do
  let (date, cs) ← readYearMonthDay cs
  let cs ← expect 'T' cs
  let ((hour, minute), cs) ← readHourMinute cs
  let time ← ClockTime.ofWritten? hour minute 0 0
  complete (⟨date, time⟩, cs)

end Moment

namespace Timestamp

def readDate (cs : List Char) : Option (Date × List Char) := do
  let (year, cs) ← readFixed 4 cs
  let cs ← expect '-' cs
  let (month, cs) ← readFixed 2 cs
  let cs ← expect '-' cs
  let (day, cs) ← readFixed 2 cs
  let date ← Date.ofParts? year month day
  return (date, cs)

def readSeparator : List Char → Option (List Char)
  | 'T' :: cs | 't' :: cs | ' ' :: cs => some cs
  | _ => none

/-- Digits beyond the ninth are read and dropped; without a point there is no fraction. -/
def readFraction : List Char → Option (Nat × List Char)
  | '.' :: cs =>
    match cs.takeWhile Char.isDigit with
    | [] => none
    | d :: ds =>
      let kept := (d :: ds).take 9
      some (Nat.ofDigitChars 10 (kept.rightpad 9 '0') 0, cs.drop (ds.length + 1))
  | cs => some (0, cs)

def readTime (cs : List Char) : Option (ClockTime × List Char) := do
  let (hour, cs) ← readFixed 2 cs
  let cs ← expect ':' cs
  let (minute, cs) ← readFixed 2 cs
  let cs ← expect ':' cs
  let (second, cs) ← readFixed 2 cs
  let (nanosecond, cs) ← readFraction cs
  let time ← ClockTime.ofWritten? hour minute second nanosecond
  return (time, cs)

/-- Hours and minutes of a clock, as a number of minutes. -/
def readDistance (cs : List Char) : Option (Nat × List Char) := do
  let (hours, cs) ← readFixed 2 cs
  let cs ← expect ':' cs
  let (minutes, cs) ← readFixed 2 cs
  if hours < 24 ∧ minutes < 60 then return (hours * 60 + minutes, cs) else none

/-- Minutes ahead of universal time. The minus sign may be the typographical one. -/
def readOffset : List Char → Option (Int × List Char)
  | 'Z' :: cs | 'z' :: cs => some (0, cs)
  | '+' :: cs => (readDistance cs).map fun r => ((r.1 : Int), r.2)
  | '-' :: cs | '\u2212' :: cs => (readDistance cs).map fun r => (-(r.1 : Int), r.2)
  | _ => none

end Timestamp

def Moment.readTimestamp? (cs : List Char) : Option Moment := do
  let (date, cs) ← Timestamp.readDate cs
  let cs ← Timestamp.readSeparator cs
  let (time, cs) ← Timestamp.readTime cs
  let (offset, cs) ← Timestamp.readOffset cs
  let moment ← complete (Moment.mk date time, cs)
  moment.minutesEarlier? offset

/-- The first of the accepted forms that fits; a date alone means its midnight. -/
def Moment.read? (cs : List Char) : Option Moment :=
  Moment.readTimestamp? cs
    <|> Moment.readJoined? cs
    <|> Moment.readSpaced? cs
    <|> Moment.readToMinute? cs
    <|> (Date.read? cs).map Date.atMidnight

end Calendar
end FieldQuery
