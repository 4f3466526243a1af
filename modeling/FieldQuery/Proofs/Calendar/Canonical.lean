import FieldQuery.Calendar.Format
import FieldQuery.Proofs.Calendar.RoundTrip
import FieldQuery.Settings

/-!
What the default date pattern writes: date, the letter T, time and the letter Z. Where the year has
four digits this is a timestamp in universal time, and it is read back as what can be seen of the
moment. A timestamp has no sign before its year, and no other form has a letter at its end, so that
for all other years nothing is read. The text still determines what can be seen of the moment, since
the date in front of it and the time behind the date can be told apart.
-/

namespace FieldQuery
namespace Calendar

open Text (Stops)

namespace Moment

def canonicalChars (m : Moment) : List Char := m.date.chars ++ 'T' :: m.time.chars ++ ['Z']

theorem format?_default (m : Moment) :
    m.format? defaultDatePattern = some (String.ofList m.canonicalChars) := by
  have items : Pattern.read? defaultDatePattern.toList =
      some (Pattern.yearMonthDay ++ .literal 'T' :: Pattern.hourMinuteSecond ++ [.literal 'Z']) :=
    rfl
  have written : m.patternChars?
      (Pattern.yearMonthDay ++ .literal 'T' :: Pattern.hourMinuteSecond ++ [.literal 'Z']) =
      some m.canonicalChars := by
    simp [patternChars?, itemChars?, componentChars, Pattern.yearMonthDay,
      Pattern.hourMinuteSecond, Pattern.hourMinute, canonicalChars, Date.chars, ClockTime.chars]
  rw [format?, items, Option.bind_some, written, Option.map_some]

theorem minutesEarlier?_zero (m : Moment) : m.minutesEarlier? 0 = some m := by
  have hour := m.time.hour_lt
  have minute := m.time.minute_lt
  have day : m.date.ofMinute? (m.time.hour * 60 + m.time.minute - 0) = some m.date := by
    rw [Date.ofMinute?, if_neg (by omega), if_pos (by omega)]
  have rest : (((m.time.hour : Int) * 60 + m.time.minute - 0) % 1440).toNat =
      m.time.hour * 60 + m.time.minute := by omega
  have hours : (m.time.hour * 60 + m.time.minute) / 60 = m.time.hour := by omega
  have minutes : (m.time.hour * 60 + m.time.minute) % 60 = m.time.minute := by omega
  simp only [minutesEarlier?, day, rest, hours, minutes, m.time.ofParts?_parts,
    Option.bind_eq_bind, Option.bind_some, Option.pure_def]

variable (m : Moment)

theorem readYearMonthDay_canonicalChars :
    readYearMonthDay m.canonicalChars = some (m.date, 'T' :: m.time.chars ++ ['Z']) := by
  have date := readYearMonthDay_reads m.date ('T' :: m.time.chars ++ ['Z'])
    (Text.stops_cons (by decide) _)
  rwa [← List.append_assoc] at date

theorem readHourMinuteSecond_canonicalChars :
    readHourMinuteSecond (m.time.chars ++ ['Z']) = some (m.time.shown, ['Z']) :=
  readHourMinuteSecond_reads m.time ['Z'] (Text.stops_cons (by decide) [])

theorem readTimestamp?_canonicalChars :
    readTimestamp? m.canonicalChars =
      if hasFourDigits m.date.year then some m.shown else none := by
  have text : m.canonicalChars = m.date.chars ++ ('T' :: (m.time.chars ++ ['Z'])) := by
    simp [canonicalChars]
  have time := Timestamp.readTime_reads m.time ['Z'] (Text.stops_cons (by decide) [])
  cases plain : hasFourDigits m.date.year with
  | false => simp [readTimestamp?, text, Timestamp.readDate_signed plain]
  | true =>
      have same : (⟨m.date, m.time.shown⟩ : Moment) = m.shown := rfl
      simp [readTimestamp?, text, Timestamp.readDate_plain plain, Timestamp.readSeparator, time,
        Timestamp.readOffset, Text.complete, same, minutesEarlier?_zero]

theorem readJoined?_canonicalChars : readJoined? m.canonicalChars = none := by
  have time := m.readHourMinuteSecond_canonicalChars
  simp [readJoined?, readYearMonthDay_canonicalChars, time, Text.complete]

theorem readSpaced?_canonicalChars : readSpaced? m.canonicalChars = none := by
  have letter : readHourMinuteSecond
      (Text.skipBlanks ('T' :: m.time.chars ++ ['Z'])) = none := by
    have skip := skipBlanks_of_not_isBlank (c := 'T') (m.time.chars ++ ['Z']) (by decide)
    have digit : Char.isDigit 'T' = false := by decide
    rw [List.cons_append, skip]
    simp [readHourMinuteSecond, readHourMinute, readPart, skip, readDigits, digit]
  simp only [readSpaced?, readYearMonthDay_canonicalChars, letter, Option.bind_eq_bind,
    Option.bind_some, Option.bind_none]

theorem readToMinute?_canonicalChars : readToMinute? m.canonicalChars = none := by
  have front := readHourMinute_reads m.time (':' :: (twoPlaces .zero m.time.writtenSecond ++ ['Z']))
    (Text.stops_cons (by decide) _)
  have text : m.time.chars ++ ['Z'] =
      twoPlaces .zero m.time.hour ++ ':' :: twoPlaces .zero m.time.minute ++
        ':' :: (twoPlaces .zero m.time.writtenSecond ++ ['Z']) := by
    simp [ClockTime.chars]
  simp only [readToMinute?, readYearMonthDay_canonicalChars, List.cons_append, Text.expect_cons,
    text, front, Option.bind_eq_bind, Option.bind_some]
  cases ClockTime.ofWritten? m.time.hour m.time.minute 0 0 with
  | none => rfl
  | some time => rfl

theorem dateRead?_canonicalChars : Date.read? m.canonicalChars = none := by
  simp [Date.read?, readYearMonthDay_canonicalChars, Text.complete]

theorem read?_canonicalChars :
    Moment.read? m.canonicalChars =
      if hasFourDigits m.date.year then some m.shown else none := by
  simp only [Moment.read?, readTimestamp?_canonicalChars, readJoined?_canonicalChars,
    readSpaced?_canonicalChars, readToMinute?_canonicalChars, dateRead?_canonicalChars]
  cases hasFourDigits m.date.year <;> rfl

variable {m} {n : Moment}

theorem canonicalChars_shown (m : Moment) : m.shown.canonicalChars = m.canonicalChars := by
  rw [canonicalChars, canonicalChars, ← m.time.chars_shown]
  rfl

theorem canonicalChars_eq_iff : m.canonicalChars = n.canonicalChars ↔ m.shown = n.shown := by
  constructor
  · intro same
    have dates := m.readYearMonthDay_canonicalChars
    rw [same, readYearMonthDay_canonicalChars, Option.some.injEq, Prod.mk.injEq] at dates
    have after : n.time.chars ++ ['Z'] = m.time.chars ++ ['Z'] := (List.cons.inj dates.2).2
    have times := m.readHourMinuteSecond_canonicalChars
    rw [← after, readHourMinuteSecond_canonicalChars, Option.some.injEq, Prod.mk.injEq] at times
    rw [shown, shown, dates.1, times.1]
  · intro same
    rw [← canonicalChars_shown m, same, canonicalChars_shown n]

theorem chars_eq_iff : m.chars = n.chars ↔ m.shown = n.shown := by
  constructor
  · intro same
    have read := m.read?_chars
    rw [same, read?_chars] at read
    exact (Option.some.inj read).symm
  · intro same
    rw [← chars_shown m, same, chars_shown n]

theorem wholeSecond_eq_self_iff : m.wholeSecond = m ↔ m.time.fraction = 0 := by
  rw [← ClockTime.wholeSecond_eq_self_iff]
  simp [wholeSecond, Moment.ext_iff]

end Moment

end Calendar
end FieldQuery
