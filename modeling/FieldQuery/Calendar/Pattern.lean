import FieldQuery.Calendar.Written

/-!
Patterns that say how a moment is written. A pattern is text in which a percent sign introduces a
specifier: a letter, perhaps after a padding mark, or one of the longer forms for fractions of a
second and for the time zone. Everything else stands for itself.

Reading a pattern is the run of a small machine over its characters. The machine refuses unknown
specifiers, padding marks on anything but a single number, and an unfinished specifier at the end.
-/

namespace FieldQuery
namespace Calendar

/-- The numbers that can be read off a moment. -/
inductive Component where
  | year
  | century
  | yearOfCentury
  | weekYear
  | weekYearOfCentury
  | quarter
  | month
  | day
  | dayOfYear
  | weekFromSunday
  | weekFromMonday
  | week
  | daysFromSunday
  | weekday
  | hour
  | hour12
  | minute
  | second
  | nanosecond
  | unixSeconds
  deriving DecidableEq

inductive PatternItem where
  | literal (c : Char)
  | number (component : Component) (pad : Pad)
  | monthName
  | shortMonthName
  | weekdayName
  | shortWeekdayName
  | halfDay (upper : Bool)
  /-- A point and three, six or nine digits, as few as are exact; nothing for a whole second. -/
  | shortestFraction
  | fraction (dotted : Bool) (digits : Nat)
  /-- Anything that depends on a time zone. -/
  | zone
  deriving DecidableEq

abbrev Pattern := List PatternItem

namespace Pattern

open PatternItem

/-- Specifiers of a single number, with the padding each has by itself. -/
def number? : Char → Option (Component × Pad)
  | 'Y' => some (.year, .zero)
  | 'C' => some (.century, .zero)
  | 'y' => some (.yearOfCentury, .zero)
  | 'G' => some (.weekYear, .zero)
  | 'g' => some (.weekYearOfCentury, .zero)
  | 'q' => some (.quarter, .none)
  | 'm' => some (.month, .zero)
  | 'd' => some (.day, .zero)
  | 'e' => some (.day, .space)
  | 'j' => some (.dayOfYear, .zero)
  | 'U' => some (.weekFromSunday, .zero)
  | 'W' => some (.weekFromMonday, .zero)
  | 'V' => some (.week, .zero)
  | 'w' => some (.daysFromSunday, .none)
  | 'u' => some (.weekday, .none)
  | 'H' => some (.hour, .zero)
  | 'k' => some (.hour, .space)
  | 'I' => some (.hour12, .zero)
  | 'l' => some (.hour12, .space)
  | 'M' => some (.minute, .zero)
  | 'S' => some (.second, .zero)
  | 'f' => some (.nanosecond, .zero)
  | 's' => some (.unixSeconds, .none)
  | _ => none

def yearMonthDay : Pattern :=
  [number .year .zero, literal '-', number .month .zero, literal '-', number .day .zero]

def monthDayYear : Pattern :=
  [number .month .zero, literal '/', number .day .zero, literal '/', number .yearOfCentury .zero]

def hourMinute : Pattern := [number .hour .zero, literal ':', number .minute .zero]

def hourMinuteSecond : Pattern := hourMinute ++ [literal ':', number .second .zero]

/-- Names, the specifiers that stand for several items, and those of the time zone. -/
def other? : Char → Option Pattern
  | 'A' => some [weekdayName]
  | 'a' => some [shortWeekdayName]
  | 'B' => some [monthName]
  | 'b' | 'h' => some [shortMonthName]
  | 'p' => some [halfDay true]
  | 'P' => some [halfDay false]
  | 'D' | 'x' => some monthDayYear
  | 'F' => some yearMonthDay
  | 'T' | 'X' => some hourMinuteSecond
  | 'R' => some hourMinute
  | 'r' => some
      [number .hour12 .zero, literal ':', number .minute .zero, literal ':', number .second .zero,
        literal ' ', halfDay true]
  | 'c' => some
      ([shortWeekdayName, literal ' ', shortMonthName, literal ' ', number .day .space,
        literal ' '] ++ hourMinuteSecond ++ [literal ' ', number .year .zero])
  | 'v' => some
      [number .day .space, literal '-', shortMonthName, literal '-', number .year .zero]
  | 't' => some [literal '\t']
  | 'n' => some [literal '\n']
  | '%' => some [literal '%']
  | 'z' | 'Z' | '+' => some [zone]
  | _ => none

/-- Where the machine stands: in plain text or within a specifier. -/
inductive Cursor where
  | text
  | specifier
  | padded (pad : Pad)
  | alternate
  | colons (count : Nat)
  | point
  | fraction (dotted : Bool) (digits : Nat)
  deriving DecidableEq

namespace Cursor

def digits? : Char → Option Nat
  | '3' => some 3
  | '6' => some 6
  | '9' => some 9
  | _ => none

def stepSpecifier (c : Char) : Option (Pattern × Cursor) :=
  match c with
  | '-' => some ([], .padded .none)
  | '_' => some ([], .padded .space)
  | '0' => some ([], .padded .zero)
  | '#' => some ([], .alternate)
  | ':' => some ([], .colons 1)
  | '.' => some ([], .point)
  | c =>
    match digits? c, number? c with
    | some digits, _ => some ([], .fraction false digits)
    | none, some (component, pad) => some ([number component pad], .text)
    | none, none => (other? c).map fun items => (items, .text)

/-- The items a character completes, and where the machine stands after it. -/
def step (cursor : Cursor) (c : Char) : Option (Pattern × Cursor) :=
  match cursor with
  | .text => if c = '%' then some ([], .specifier) else some ([literal c], .text)
  | .specifier => stepSpecifier c
  | .padded pad => (number? c).map fun r => ([number r.1 pad], .text)
  | .alternate => if c = 'z' then some ([zone], .text) else none
  | .colons count =>
    if c = 'z' then some ([zone], .text)
    else if c = ':' ∧ count < 3 then some ([], .colons (count + 1))
    else none
  | .point =>
    if c = 'f' then some ([shortestFraction], .text)
    else (digits? c).map fun digits => ([], .fraction true digits)
  | .fraction dotted digits =>
    if c = 'f' then some ([PatternItem.fraction dotted digits], .text) else none

end Cursor

def readFrom (cursor : Cursor) : List Char → Option Pattern
  | [] => if cursor = .text then some [] else none
  | c :: cs => do
    let (items, next) ← cursor.step c
    let rest ← readFrom next cs
    return items ++ rest

def read? (cs : List Char) : Option Pattern := readFrom .text cs

end Pattern

end Calendar
end FieldQuery
