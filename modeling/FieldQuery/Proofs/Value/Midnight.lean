import FieldQuery.Proofs.Calendar.RoundTrip
import FieldQuery.Proofs.Value.Numbers

/-!
Dates are the moments at midnight. The reading of a date tries a date alone first, while the reading
of a moment tries it last, so the two agree only because no text of a date alone is taken by one of
the forms before it. Three of these begin in the same way and then find nothing where they look for
a time; a timestamp begins with a date that the lenient reading finds too, with the same rest.
-/

namespace FieldQuery
namespace Calendar

open Text (expect)

theorem numeral_of_readFixed {width n : Nat} {cs rest : List Char}
    (read : readFixed (width + 1) cs = some (n, rest)) :
    ∃ ds, cs = ds ++ rest ∧ ds.length = width + 1 ∧ Numeral n ds := by
  simp only [readFixed] at read
  split at read
  · next h =>
      obtain ⟨length, digits⟩ := h
      cases read
      refine ⟨cs.take (width + 1), (List.take_append_drop ..).symm, length, ?_, ?_, rfl⟩
      · exact List.ne_nil_of_length_eq_add_one length
      · exact List.all_eq_true.mp digits
  · cases read

/-- As many digits as may be taken are taken whatever follows them. -/
theorem Numeral.readDigits_full {n most : Nat} {ds : List Char} (numeral : Numeral n ds)
    (full : ds.length = most) (rest : List Char) :
    Calendar.readDigits most (ds ++ rest) = some (n, rest) := by
  have run : ((ds ++ rest).takeWhile Char.isDigit).take most = ds := by
    rw [List.takeWhile_append_of_pos numeral.digits]
    exact List.take_left' full
  have value := numeral.value
  rw [Calendar.readDigits, run]
  cases ds with
  | nil => exact absurd rfl numeral.nonempty
  | cons d ds => simp [value]

theorem readPart_of_readFixed {n : Nat} {cs rest : List Char}
    (read : readFixed 2 cs = some (n, rest)) : readPart cs = some (n, rest) := by
  obtain ⟨ds, rfl, length, numeral⟩ := numeral_of_readFixed read
  rw [readPart, numeral.skipBlanks]
  exact numeral.readDigits_full length rest

theorem readYear_of_readFixed {n : Nat} {cs rest : List Char}
    (read : readFixed 4 cs = some (n, rest)) : readYear cs = some ((n : Int), rest) := by
  obtain ⟨ds, rfl, length, numeral⟩ := numeral_of_readFixed read
  rw [numeral.readYear, numeral.readDigits_full length]
  rfl

/-- The date of a timestamp is also found by the lenient reading, and the same text is left. -/
theorem readYearMonthDay_of_readDate {cs : List Char} {found : Date × List Char}
    (read : Timestamp.readDate cs = some found) : readYearMonthDay cs = some found := by
  simp only [Timestamp.readDate, Option.bind_eq_bind, Option.bind_eq_some_iff, Prod.exists] at read
  obtain ⟨year, cs₁, hyear, cs₂, dash₁, month, cs₃, hmonth, cs₄, dash₂, day, cs₅, hday, date,
    hdate, same⟩ := read
  simp only [readYearMonthDay, readYear_of_readFixed hyear, dash₁, readPart_of_readFixed hmonth,
    dash₂, readPart_of_readFixed hday, hdate, Option.bind_eq_bind, Option.bind_some, same]

theorem readYearMonthDay_of_read? {cs : List Char} {d : Date} (read : Date.read? cs = some d) :
    readYearMonthDay cs = some (d, []) := by
  rw [Date.read?, Option.bind_eq_bind, Option.bind_eq_some_iff] at read
  obtain ⟨pair, found, whole⟩ := read
  rw [found, Text.eq_of_complete whole]

theorem Moment.readTimestamp?_of_date {cs : List Char} {d : Date}
    (alone : readYearMonthDay cs = some (d, [])) : Moment.readTimestamp? cs = none := by
  cases strict : Timestamp.readDate cs with
  | none => simp [Moment.readTimestamp?, strict]
  | some found =>
      have same := readYearMonthDay_of_readDate strict
      rw [alone] at same
      cases same
      simp [Moment.readTimestamp?, strict, Timestamp.readSeparator]

/-- A date alone is read as its midnight. -/
theorem Moment.read?_of_date {cs : List Char} {d : Date} (read : Date.read? cs = some d) :
    Moment.read? cs = some d.atMidnight := by
  have alone := readYearMonthDay_of_read? read
  have joined : Moment.readJoined? cs = none := by
    simp [Moment.readJoined?, alone, expect]
  have spaced : Moment.readSpaced? cs = none := by
    simp [Moment.readSpaced?, alone, readHourMinuteSecond, readHourMinute, readPart, readDigits,
      Text.skipBlanks]
  have toMinute : Moment.readToMinute? cs = none := by
    simp [Moment.readToMinute?, alone, expect]
  simp [Moment.read?, Moment.readTimestamp?_of_date alone, joined, spaced, toMinute, read]

end Calendar

namespace Value

open Calendar

variable {field value : String}

theorem moment_eq_error {error : Error} (failed : moment field value = .error error) :
    error = .invalidValue field value .notDate := by
  rw [moment] at failed
  split at failed
  · cases failed
  · exact (Except.error.inj failed).symm

/-- Whichever form is tried first, a date is a moment that has the time of midnight. -/
theorem date_eq_moment_bind (field value : String) :
    date field value = (moment field value).bind fun m =>
      if m.time = .midnight then .ok m.date
      else .error (.invalidValue field value .timeOfDay) := by
  cases read : Date.read? (Text.trim value.toList) with
  | none => simp only [date, read, bind]
  | some d =>
      have same : moment field value = .ok d.atMidnight := by
        simp only [moment, Moment.read?_of_date read]
      simp only [date, read, same]
      rfl

/-- An hour past midnight is a time of day, unless it is midnight in universal time. -/
example : date "day" "2024-03-01T01:00:00" =
      .error (.invalidValue "day" "2024-03-01T01:00:00" .timeOfDay) ∧
    date "day" "2024-03-01T01:00:00+01:00" = .ok ⟨2024, 3, 1, by decide, by decide⟩ := by
  decide

theorem date_of_moment {m : Moment} (read : moment field value = .ok m) :
    date field value =
      if m.time = .midnight then .ok m.date
      else .error (.invalidValue field value .timeOfDay) := by
  rw [date_eq_moment_bind, read]
  rfl

theorem date_of_moment_error {error : Error} (failed : moment field value = .error error) :
    date field value = .error error := by
  rw [date_eq_moment_bind, failed]
  rfl

theorem date_eq_ok_iff {d : Date} :
    date field value = .ok d ↔ moment field value = .ok d.atMidnight := by
  cases read : moment field value with
  | error error => simp [date_of_moment_error read]
  | ok m =>
      obtain ⟨day, time⟩ := m
      by_cases midnight : time = .midnight
      · simp [date_of_moment read, midnight, Date.atMidnight]
      · simp [date_of_moment read, midnight, Date.atMidnight]

theorem date_eq_error {error : Error} (failed : date field value = .error error) :
    error = .invalidValue field value .notDate ∨
      error = .invalidValue field value .timeOfDay := by
  cases read : moment field value with
  | error cause =>
      rw [date_of_moment_error read] at failed
      cases failed
      exact .inl (moment_eq_error read)
  | ok m =>
      rw [date_of_moment read] at failed
      split at failed
      · cases failed
      · exact .inr (Except.error.inj failed).symm

theorem formatted_eq_error {pattern : String} {m : Moment} {error : Error}
    (failed : formatted pattern m = .error error) : error = .unwritableDate pattern := by
  rw [formatted] at failed
  split at failed
  · cases failed
  · exact (Except.error.inj failed).symm

/-- The indexed form of a value fails as the value does, or because no date can be written. -/
theorem indexed_eq_error {pattern : String} {type : FieldType} {error : Error}
    (failed : indexed pattern field type value = .error error) :
    error = .unwritableDate pattern ∨
      ∃ fault, error = .invalidValue field value fault ∧ fault ≠ .outOfRange := by
  cases type with
  | date =>
      cases read : date field value with
      | error cause =>
          rw [indexed, read] at failed
          cases failed
          obtain rfl | rfl := date_eq_error read
          · exact .inr ⟨_, rfl, by decide⟩
          · exact .inr ⟨_, rfl, by decide⟩
      | ok d =>
          rw [indexed, read] at failed
          exact .inl (formatted_eq_error failed)
  | dateTime =>
      cases read : moment field value with
      | error cause =>
          rw [indexed, read] at failed
          cases failed
          exact .inr ⟨_, moment_eq_error read, by decide⟩
      | ok m =>
          rw [indexed, read] at failed
          exact .inl (formatted_eq_error failed)
  | string | text | enum | boolean | integer | float | decimal =>
      obtain ⟨-, cause⟩ := number_eq_error_iff.mp failed
      exact .inr ⟨_, cause, by simp⟩

/-- The reading of dates is that of moments restricted to midnight: any other time of day is refused
as such, and what is no moment is no date for the same reason. So a date on a field of dates always
has its midnight, and no value is refused for want of it. -/
theorem date_restricts_moment (field value : String) :
    (∀ d, date field value = .ok d ↔ moment field value = .ok d.atMidnight) ∧
    (∀ m, moment field value = .ok m → m.time ≠ .midnight →
      date field value = .error (.invalidValue field value .timeOfDay)) ∧
    (∀ error, moment field value = .error error → date field value = .error error) ∧
    (∀ pattern type named given,
      indexed pattern field type value ≠ .error (.invalidValue named given .outOfRange)) ∧
    ValueFault.timeOfDay.message = "time of day on a date field" ∧
    ValueFault.outOfRange.message = "date out of range" := by
  refine ⟨fun d => date_eq_ok_iff, ?_, fun error => date_of_moment_error, ?_, rfl, rfl⟩
  · intro m read late
    rw [date_of_moment read, if_neg late]
  · intro pattern type named given failed
    obtain unwritable | ⟨fault, same, other⟩ := indexed_eq_error failed
    · cases unwritable
    · cases same
      exact other rfl

end Value
end FieldQuery
