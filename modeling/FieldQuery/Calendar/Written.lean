import FieldQuery.Calendar.Moment

/-!
Dates and times in writing, from the most significant number to the least. Years outside the four
digits carry a sign. A fraction of a second is left out.
-/

namespace FieldQuery
namespace Calendar

/-- At least `width` digits, with leading zeros. -/
def zeroPadded (width n : Nat) : List Char := (Nat.toDigits 10 n).leftpad width '0'

/-- What stands before a number that is narrower than its place. -/
inductive Pad where
  | none
  | space
  | zero
  deriving DecidableEq

/-- Zeros go between sign and digits, spaces before the sign. With `plus` a positive number has a
sign too, and the sign does not count towards the width. -/
def paddedNumber (pad : Pad) (width : Nat) (plus : Bool) (n : Int) : List Char :=
  let sign := if n < 0 then ['-'] else if plus then ['+'] else []
  let digits := Nat.toDigits 10 n.natAbs
  let full := if plus then width + 1 else width
  match pad with
  | .none => sign ++ digits
  | .space => (sign ++ digits).leftpad full ' '
  | .zero => sign ++ zeroPadded (full - sign.length) n.natAbs

def hasFourDigits (year : Int) : Bool := 0 ≤ year && year ≤ 9999

def yearChars (pad : Pad) (year : Int) : List Char :=
  paddedNumber pad 4 (!hasFourDigits year) year

/-- The character `n` places after zero, a digit for `n` below ten. -/
def placeChar (n : Nat) : Char := Char.ofNat (48 + n)

/-- Tens and units. Padding concerns a number without tens. -/
def twoPlaces (pad : Pad) (n : Nat) : List Char :=
  match n / 10, pad with
  | 0, .none => [placeChar (n % 10)]
  | 0, .space => [' ', placeChar (n % 10)]
  | tens, _ => [placeChar tens, placeChar (n % 10)]

def Date.chars (d : Date) : List Char :=
  yearChars .zero d.year ++ '-' :: twoPlaces .zero d.month ++ '-' :: twoPlaces .zero d.day

def ClockTime.chars (t : ClockTime) : List Char :=
  twoPlaces .zero t.hour ++ ':' :: twoPlaces .zero t.minute
    ++ ':' :: twoPlaces .zero t.writtenSecond

def Moment.chars (m : Moment) : List Char := m.date.chars ++ ' ' :: m.time.chars

end Calendar
end FieldQuery
