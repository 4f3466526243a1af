import FieldQuery.Proofs.Calendar.LeapSeconds
import Mathlib.Algebra.Group.Nat.Defs

/-!
Dates and moments can be read back from what is written of them, years outside the four digits and
leap seconds at the end of a minute included. What is lost is the fraction of a second, because it
is not written, and that a leap second within a minute was one. The reading of a moment tries
several forms one after the other; of these only the one with a blank between date and time takes a
written moment.
-/

namespace FieldQuery
namespace Calendar

open Text (Reads Stops expect skipBlanks)

/-- Digits that stand for the number. -/
structure Numeral (n : Nat) (ds : List Char) : Prop where
  nonempty : ds ≠ []
  digits : ∀ c ∈ ds, c.isDigit
  value : Nat.ofDigitChars 10 ds 0 = n

theorem numeral_zeroPadded (width n : Nat) : Numeral n (zeroPadded width n) where
  nonempty := by simp [zeroPadded, List.leftpad, Nat.toDigits_ne_nil]
  digits := by
    intro c mem
    obtain mem | mem := List.mem_append.mp mem
    · rw [List.eq_of_mem_replicate mem]
      decide
    · exact Nat.isDigit_of_mem_toDigits (by decide) (by decide) mem
  value := by
    rw [zeroPadded, List.leftpad, Nat.ofDigitChars_append, Nat.ofDigitChars_replicate_zero,
      Nat.mul_zero, Nat.ofDigitChars_ten_toDigits]

theorem length_zeroPadded {n width : Nat} (small : n < 10 ^ width) (pos : 0 < width) :
    (zeroPadded width n).length = width := by
  have fits := (Nat.length_toDigits_le_iff (by decide) pos).mpr small
  rw [zeroPadded, List.length_leftpad, Nat.max_eq_left fits]

theorem placeChar_eq_digitChar {n : Nat} (small : n < 10) : placeChar n = n.digitChar := by
  have all : ∀ n < 10, placeChar n = n.digitChar := by decide
  exact all n small

theorem twoPlaces_zero (n : Nat) :
    twoPlaces .zero n = [placeChar (n / 10), placeChar (n % 10)] := by
  cases h : n / 10 <;> simp [twoPlaces, h]

theorem numeral_twoPlaces {n : Nat} (small : n < 100) : Numeral n (twoPlaces .zero n) := by
  have tens : n / 10 < 10 := by omega
  have units : n % 10 < 10 := by omega
  rw [twoPlaces_zero, placeChar_eq_digitChar tens, placeChar_eq_digitChar units]
  refine ⟨by simp, by simp [tens, units], ?_⟩
  rw [Nat.ofDigitChars_cons_digitChar_of_lt_ten tens,
    Nat.ofDigitChars_cons_digitChar_of_lt_ten units, Nat.ofDigitChars_nil]
  omega

theorem Numeral.readDigits {n most : Nat} {ds : List Char} (numeral : Numeral n ds)
    (fits : ds.length ≤ most) : Reads (readDigits most) (Stops Char.isDigit) ds n := by
  intro rest stops
  have run : (ds ++ rest).takeWhile Char.isDigit = ds :=
    Text.takeWhile_of_stops numeral.digits stops
  have value := numeral.value
  rw [Calendar.readDigits, run, List.take_of_length_le fits]
  cases ds with
  | nil => exact absurd rfl numeral.nonempty
  | cons d ds => simp [value]

/-- A number of fixed width is found whatever follows it. -/
theorem Numeral.readFixed {n width : Nat} {ds : List Char} (numeral : Numeral n ds)
    (fits : ds.length = width) (rest : List Char) :
    Calendar.readFixed width (ds ++ rest) = some (n, rest) := by
  subst fits
  simpa [Calendar.readFixed, numeral.value] using numeral.digits

theorem not_isBlank_of_isDigit {c : Char} (digit : c.isDigit) : Text.isBlank c = false := by
  have range : 48 ≤ c.toNat ∧ c.toNat ≤ 57 := by
    simpa [Char.isDigit, UInt32.le_iff_toNat_le] using digit
  simp [Text.isBlank, Text.blankRanges, Text.CodeRanges.covers]
  omega

theorem skipBlanks_of_not_isBlank {c : Char} (cs : List Char) (plain : Text.isBlank c = false) :
    skipBlanks (c :: cs) = c :: cs := by
  simp [skipBlanks, plain]

theorem Numeral.skipBlanks {n : Nat} {ds : List Char} (numeral : Numeral n ds)
    (rest : List Char) : Text.skipBlanks (ds ++ rest) = ds ++ rest := by
  have digits := numeral.digits
  cases ds with
  | nil => exact absurd rfl numeral.nonempty
  | cons d ds => exact skipBlanks_of_not_isBlank _ (not_isBlank_of_isDigit (digits d (by simp)))

theorem yearChars_cases (year : Int) :
    (0 ≤ year ∧ year ≤ 9999 ∧
      yearChars .zero year = zeroPadded 4 year.natAbs) ∨
    (year < 0 ∧ yearChars .zero year = '-' :: zeroPadded 4 year.natAbs) ∨
    (9999 < year ∧
      yearChars .zero year = '+' :: zeroPadded 4 year.natAbs) := by
  by_cases negative : year < 0
  · refine .inr (.inl ⟨negative, ?_⟩)
    have signed : hasFourDigits year = false := by
      simp only [hasFourDigits, Bool.and_eq_false_iff, decide_eq_false_iff_not]
      omega
    simp [yearChars, paddedNumber, signed, negative]
  · by_cases large : 9999 < year
    · refine .inr (.inr ⟨large, ?_⟩)
      have signed : hasFourDigits year = false := by
        simp only [hasFourDigits, Bool.and_eq_false_iff, decide_eq_false_iff_not]
        omega
      simp [yearChars, paddedNumber, signed, negative]
    · have plain : hasFourDigits year = true := by
        simp only [hasFourDigits, Bool.and_eq_true, decide_eq_true_eq]
        omega
      refine .inl ⟨by omega, by omega, ?_⟩
      simp [yearChars, paddedNumber, plain, negative]

/-- A numeral has no sign, so a year that begins with one is read as four digits. -/
theorem Numeral.readYear {n : Nat} {ds : List Char} (numeral : Numeral n ds) (rest : List Char) :
    Calendar.readYear (ds ++ rest) =
      (Calendar.readDigits 4 (ds ++ rest)).map fun r => ((r.1 : Int), r.2) := by
  have digits := numeral.digits
  have skip := numeral.skipBlanks rest
  cases ds with
  | nil => exact absurd rfl numeral.nonempty
  | cons d ds =>
      have minus : d ≠ '-' := by
        rintro rfl
        exact absurd (digits '-' (by simp)) (by decide)
      have plus : d ≠ '+' := by
        rintro rfl
        exact absurd (digits '+' (by simp)) (by decide)
      rw [List.cons_append] at skip ⊢
      simp [Calendar.readYear, skip, minus, plus]

theorem readYear_reads (year : Int) :
    Reads readYear (Stops Char.isDigit) (yearChars .zero year) year := by
  intro rest stops
  have numeral := numeral_zeroPadded 4 year.natAbs
  -- After a sign as many digits are taken as the text has, which is enough for any year.
  have enough : (zeroPadded 4 year.natAbs).length ≤
      (zeroPadded 4 year.natAbs ++ rest).length := by
    simp
  obtain ⟨lower, upper, text⟩ | ⟨negative, text⟩ | ⟨large, text⟩ := yearChars_cases year
  · have length : (zeroPadded 4 year.natAbs).length = 4 :=
      length_zeroPadded (by omega) (by decide)
    have read := numeral.readDigits (Nat.le_of_eq length) rest stops
    rw [text, numeral.readYear, read]
    simp [Int.natAbs_of_nonneg lower]
  · have read := numeral.readDigits enough rest stops
    have skip := skipBlanks_of_not_isBlank (c := '-')
      (zeroPadded 4 year.natAbs ++ rest) (by decide)
    have value : -(year.natAbs : Int) = year := by omega
    rw [text, List.cons_append]
    simp only [readYear, skip, read, Option.map_some, value]
  · have read := numeral.readDigits enough rest stops
    have skip := skipBlanks_of_not_isBlank (c := '+')
      (zeroPadded 4 year.natAbs ++ rest) (by decide)
    have value : (year.natAbs : Int) = year := by omega
    rw [text, List.cons_append]
    simp only [readYear, skip, read, Option.map_some, value]

theorem length_twoPlaces_zero (n : Nat) : (twoPlaces .zero n).length = 2 := by
  simp [twoPlaces_zero]

theorem Numeral.readPart {n : Nat} (numeral : Numeral n (twoPlaces .zero n)) :
    Reads readPart (Stops Char.isDigit) (twoPlaces .zero n) n := by
  intro rest stops
  rw [Calendar.readPart, numeral.skipBlanks]
  exact numeral.readDigits (Nat.le_of_eq (length_twoPlaces_zero n)) rest stops

theorem monthLength_le (year : Int) (month : Nat) : monthLength year month ≤ 31 := by
  simp only [monthLength]
  split <;> grind

theorem monthLength_of_gt (year : Int) {month : Nat} (large : 12 < month) :
    monthLength year month = 0 := by
  simp only [monthLength]
  split <;> omega

theorem Date.numeral_month (d : Date) : Numeral d.month (twoPlaces .zero d.month) := by
  apply numeral_twoPlaces
  by_contra large
  have none : monthLength d.year d.month = 0 := monthLength_of_gt d.year (by omega)
  have := d.day_mem
  omega

theorem Date.numeral_day (d : Date) : Numeral d.day (twoPlaces .zero d.day) := by
  apply numeral_twoPlaces
  have := monthLength_le d.year d.month
  have := d.day_mem
  omega

theorem ClockTime.numeral_hour (t : ClockTime) : Numeral t.hour (twoPlaces .zero t.hour) :=
  numeral_twoPlaces (Nat.lt_trans t.hour_lt (by decide))

theorem ClockTime.numeral_minute (t : ClockTime) : Numeral t.minute (twoPlaces .zero t.minute) :=
  numeral_twoPlaces (Nat.lt_trans t.minute_lt (by decide))

theorem ClockTime.numeral_second (t : ClockTime) :
    Numeral t.writtenSecond (twoPlaces .zero t.writtenSecond) :=
  numeral_twoPlaces (Nat.lt_of_le_of_lt t.writtenSecond_le (by decide))

theorem Date.ofParts?_parts (d : Date) : Date.ofParts? d.year d.month d.day = some d := by
  simp [Date.ofParts?, d.year_mem, d.day_mem]

theorem readYearMonthDay_reads (d : Date) :
    Reads readYearMonthDay (Stops Char.isDigit) d.chars d := by
  intro rest stops
  have year := fun more =>
    readYear_reads d.year ('-' :: more) (Text.stops_cons (by decide) more)
  have month := fun more =>
    d.numeral_month.readPart ('-' :: more) (Text.stops_cons (by decide) more)
  have day := d.numeral_day.readPart rest stops
  simp only [Date.chars, List.append_assoc, List.cons_append, readYearMonthDay,
    year, month, day, d.ofParts?_parts, Option.bind_eq_bind, Option.bind_some, Option.pure_def,
    Text.expect_cons]

namespace Moment

/-- The moment without its fraction of a second. -/
def wholeSecond (m : Moment) : Moment := ⟨m.date, m.time.wholeSecond⟩

def shown (m : Moment) : Moment := ⟨m.date, m.time.shown⟩

theorem shown_of_leapEndsMinute {m : Moment} (regular : m.time.LeapEndsMinute) :
    m.shown = m.wholeSecond := by
  rw [shown, ClockTime.shown_of_leapEndsMinute regular, wholeSecond]

theorem chars_shown (m : Moment) : m.shown.chars = m.chars := by
  rw [chars, chars, ← m.time.chars_shown]
  rfl

end Moment

theorem readHourMinute_reads (t : ClockTime) :
    Reads readHourMinute (Stops Char.isDigit)
      (twoPlaces .zero t.hour ++ ':' :: twoPlaces .zero t.minute) (t.hour, t.minute) := by
  intro rest stops
  have hour := fun more =>
    t.numeral_hour.readPart (':' :: more) (Text.stops_cons (by decide) more)
  have minute := t.numeral_minute.readPart rest stops
  simp only [List.append_assoc, List.cons_append, readHourMinute, hour, minute,
    Option.bind_eq_bind, Option.bind_some, Option.pure_def, Text.expect_cons]

theorem readHourMinuteSecond_reads (t : ClockTime) :
    Reads readHourMinuteSecond (Stops Char.isDigit) t.chars t.shown := by
  intro rest stops
  have front := fun more =>
    readHourMinute_reads t (':' :: more) (Text.stops_cons (by decide) more)
  have second := t.numeral_second.readPart rest stops
  simp only [List.append_assoc, List.cons_append] at front
  simp only [ClockTime.chars, List.append_assoc, List.cons_append, readHourMinuteSecond, front,
    second, t.ofWritten?_shown, Option.bind_eq_bind, Option.bind_some, Option.pure_def,
    Text.expect_cons]

theorem Date.read?_chars (d : Date) : Date.read? d.chars = some d := by
  have read := readYearMonthDay_reads d [] (by simp [Stops])
  rw [List.append_nil] at read
  simp [Date.read?, read, Text.complete]

theorem ClockTime.skipBlanks_chars (t : ClockTime) : skipBlanks (' ' :: t.chars) = t.chars := by
  have skip := t.numeral_hour.skipBlanks
    (':' :: twoPlaces .zero t.minute ++ ':' :: twoPlaces .zero t.writtenSecond)
  have blank : Text.isBlank ' ' = true := by decide
  simpa [ClockTime.chars, skipBlanks, blank] using skip

theorem Moment.readSpaced?_chars (m : Moment) : readSpaced? m.chars = some m.shown := by
  have date := readYearMonthDay_reads m.date (' ' :: m.time.chars)
    (Text.stops_cons (by decide) _)
  have time := readHourMinuteSecond_reads m.time [] (by simp [Stops])
  rw [List.append_nil] at time
  simp [readSpaced?, Moment.chars, date, ClockTime.skipBlanks_chars, time, Text.complete,
    Moment.shown]

theorem Moment.readJoined?_chars (m : Moment) : readJoined? m.chars = none := by
  have date := readYearMonthDay_reads m.date (' ' :: m.time.chars)
    (Text.stops_cons (by decide) _)
  simp [readJoined?, Moment.chars, date, expect]

theorem Timestamp.readFixed_sign {sign : Char} (other : sign.isDigit = false) (width : Nat)
    (cs : List Char) : readFixed (width + 1) (sign :: cs) = none := by
  simp [readFixed, other]

theorem Timestamp.readDate_plain {d : Date} (plain : hasFourDigits d.year) (rest : List Char) :
    readDate (d.chars ++ rest) = some (d, rest) := by
  simp only [hasFourDigits, Bool.and_eq_true, decide_eq_true_eq] at plain
  obtain ⟨lower, upper, text⟩ | ⟨negative, -⟩ | ⟨large, -⟩ := yearChars_cases d.year
  · have year := (numeral_zeroPadded 4 d.year.natAbs).readFixed
      (length_zeroPadded (by omega) (by decide))
    have month := d.numeral_month.readFixed (length_twoPlaces_zero _)
    have day := d.numeral_day.readFixed (length_twoPlaces_zero _)
    have value : (d.year.natAbs : Int) = d.year := by omega
    simp only [Date.chars, text, List.append_assoc, List.cons_append, readDate, year, month, day,
      value, d.ofParts?_parts, Option.bind_eq_bind, Option.bind_some, Option.pure_def,
      Text.expect_cons]
  · omega
  · omega

/-- A timestamp has no sign before its year. -/
theorem Timestamp.readDate_signed {d : Date} (signed : hasFourDigits d.year = false)
    (rest : List Char) : readDate (d.chars ++ rest) = none := by
  obtain ⟨lower, upper, -⟩ | ⟨-, text⟩ | ⟨-, text⟩ := yearChars_cases d.year
  · simp [hasFourDigits, lower, upper] at signed
  · simp [Date.chars, text, readDate, readFixed_sign]
  · simp [Date.chars, text, readDate, readFixed_sign]

theorem Timestamp.readFraction_none {rest : List Char} (stops : Stops (· == '.') rest) :
    readFraction rest = some (0, rest) := by
  cases rest with
  | nil => rfl
  | cons c rest =>
      have other : c ≠ '.' := by simpa using stops c rfl
      simp [readFraction, other]

theorem Timestamp.readTime_reads (t : ClockTime) :
    Reads readTime (Stops (· == '.')) t.chars t.shown := by
  intro rest stops
  have hour := t.numeral_hour.readFixed (length_twoPlaces_zero _)
  have minute := t.numeral_minute.readFixed (length_twoPlaces_zero _)
  have second := t.numeral_second.readFixed (length_twoPlaces_zero _) rest
  simp only [ClockTime.chars, List.append_assoc, List.cons_append, readTime, hour, minute, second,
    readFraction_none stops, t.ofWritten?_shown, Option.bind_eq_bind, Option.bind_some,
    Option.pure_def, Text.expect_cons]

/-- A timestamp needs its distance from universal time, which is never written. -/
theorem Moment.readTimestamp?_chars (m : Moment) : readTimestamp? m.chars = none := by
  have time := Timestamp.readTime_reads m.time [] (by simp [Stops])
  rw [List.append_nil] at time
  cases plain : hasFourDigits m.date.year with
  | false => simp [readTimestamp?, Moment.chars, Timestamp.readDate_signed plain]
  | true =>
      simp [readTimestamp?, Moment.chars, Timestamp.readDate_plain plain, Timestamp.readSeparator,
        time, Timestamp.readOffset]

theorem Moment.read?_chars (m : Moment) : Moment.read? m.chars = some m.shown := by
  simp [Moment.read?, Moment.readTimestamp?_chars, Moment.readJoined?_chars,
    Moment.readSpaced?_chars]

section Quotes

theorem Numeral.not_mem {n : Nat} {ds : List Char} (numeral : Numeral n ds) {c : Char}
    (other : c.isDigit = false) : c ∉ ds := by
  intro mem
  simp [numeral.digits c mem] at other

theorem quote_not_mem_yearChars (year : Int) : '\x27' ∉ yearChars .zero year := by
  have digits := (numeral_zeroPadded 4 year.natAbs).not_mem (c := '\x27') (by decide)
  obtain ⟨-, -, text⟩ | ⟨-, text⟩ | ⟨-, text⟩ := yearChars_cases year <;> simp [text, digits]

theorem Date.quote_not_mem_chars (d : Date) : '\x27' ∉ d.chars := by
  have month := d.numeral_month.not_mem (c := '\x27') (by decide)
  have day := d.numeral_day.not_mem (c := '\x27') (by decide)
  simp [Date.chars, quote_not_mem_yearChars, month, day]

theorem ClockTime.quote_not_mem_chars (t : ClockTime) : '\x27' ∉ t.chars := by
  have hour := t.numeral_hour.not_mem (c := '\x27') (by decide)
  have minute := t.numeral_minute.not_mem (c := '\x27') (by decide)
  have second := t.numeral_second.not_mem (c := '\x27') (by decide)
  simp [ClockTime.chars, hour, minute, second]

theorem Moment.quote_not_mem_chars (m : Moment) : '\x27' ∉ m.chars := by
  simp [Moment.chars, m.date.quote_not_mem_chars, m.time.quote_not_mem_chars]

end Quotes

end Calendar
end FieldQuery
