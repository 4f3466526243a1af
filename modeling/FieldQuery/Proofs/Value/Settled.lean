import FieldQuery.Proofs.Value.Midnight
import FieldQuery.Proofs.Value.WrittenMoments
import Mathlib.Data.List.DropRight

/-!
Written values that are given as values again. Dates and moments of every year are read from their
quoted literals and written in the same way once more. The indexed form of a value is its own
indexed form: a number has no blanks left to trim, a moment has lost its fraction the first time,
and a date comes back from the timestamp of its midnight. A date or moment needs the default pattern
and a year of four digits for that, since what is written otherwise is no timestamp.
-/

namespace FieldQuery

namespace Text

theorem Stops.front {p : Char → Bool} {front rest : List Char} (stops : Stops p (front ++ rest)) :
    Stops p front := by
  cases front with
  | nil => nofun
  | cons c front => exact stops

theorem trim_of_no_blanks {cs : List Char} (none : ∀ c ∈ cs, isBlank c = false) :
    trim cs = cs := by
  apply trim_eq_self
  · exact stops_of_none none
  · exact stops_of_none fun c last => none c (List.mem_reverse.mp last)

theorem trim_trim (cs : List Char) : trim (trim cs) = trim cs := by
  apply trim_eq_self
  · obtain ⟨blanks, whole⟩ := List.rdropWhile_prefix isBlank (skipBlanks cs)
    have stops := stops_dropWhile isBlank cs
    rw [← skipBlanks, ← whole] at stops
    exact stops.front
  · rw [trim, List.reverse_reverse]
    exact stops_dropWhile isBlank _

end Text

namespace Calendar

theorem hasFourDigits_iff {year : Int} : hasFourDigits year = true ↔ 0 ≤ year ∧ year ≤ 9999 := by
  simp [hasFourDigits]

end Calendar

namespace Relational

open Calendar

theorem betweenQuotes_date (dialect : RelationalDialect) (d : Date) :
    betweenQuotes ((Literal.date d).text dialect) = String.ofList d.chars := by
  cases dialect with
  | jpql => exact betweenQuotes_enquote "\x7bd ".toList ['\x7d'] (by decide) d.quote_not_mem_chars
  | sql =>
      have quoted := betweenQuotes_enquote "DATE ".toList [] (by decide) d.quote_not_mem_chars
      rwa [List.append_nil] at quoted

end Relational

namespace Value

open Calendar
open Relational (Literal betweenQuotes betweenQuotes_date betweenQuotes_moment moment_text_shown)

variable {field value bound : String}

theorem date_ofList_chars (field : String) (d : Date) :
    date field (String.ofList d.chars) = .ok d := by
  have trimmed := Text.trim_of_no_blanks d.not_isBlank_of_mem_chars
  simp only [date, String.toList_ofList, trimmed, d.read?_chars]

theorem number_of_number {type : FieldType} (checked : number field type value = .ok bound) :
    number field type bound = .ok bound := by
  obtain ⟨numeral, rfl⟩ := number_eq_ok_iff.mp checked
  rw [number_eq_ok_iff, String.toList_ofList, Text.trim_trim]
  exact ⟨numeral, rfl⟩

theorem indexed_default_of_date {d : Date} (read : date field value = .ok d) :
    indexed defaultDatePattern field .date value =
      .ok (String.ofList d.atMidnight.canonicalChars) := by
  show (date field value).bind _ = _
  rw [read]
  show formatted defaultDatePattern d.atMidnight = _
  rw [formatted, Moment.format?_default]

theorem date_canonicalChars_atMidnight {d : Date} (plain : hasFourDigits d.year = true) :
    date field (String.ofList d.atMidnight.canonicalChars) = .ok d := by
  have read := moment_ofList_canonicalChars field d.atMidnight
  rw [if_pos (show hasFourDigits d.atMidnight.date.year = true from plain)] at read
  exact date_eq_ok_iff.mpr read

/-- The year of the date or moment that the value is read as, on a field of dates or of moments. -/
def ReadYear (field : String) (type : FieldType) (value : String) (year : Int) : Prop :=
  (type = .date ∧ ∃ d, date field value = .ok d ∧ d.year = year) ∨
    (type = .dateTime ∧ ∃ m, moment field value = .ok m ∧ m.date.year = year)

theorem indexed_date_of_indexed (taken : indexed defaultDatePattern field .date value = .ok bound)
    (plain : ∀ year, ReadYear field .date value year → 0 ≤ year ∧ year ≤ 9999) :
    indexed defaultDatePattern field .date bound = .ok bound := by
  cases read : date field value with
  | error error =>
      rw [indexed, read] at taken
      cases taken
  | ok d =>
      have four := hasFourDigits_iff.mpr (plain d.year (.inl ⟨rfl, d, read, rfl⟩))
      rw [indexed_default_of_date read] at taken
      cases taken
      exact indexed_default_of_date (date_canonicalChars_atMidnight four)

theorem indexed_moment_of_indexed
    (taken : indexed defaultDatePattern field .dateTime value = .ok bound)
    (plain : ∀ year, ReadYear field .dateTime value year → 0 ≤ year ∧ year ≤ 9999) :
    indexed defaultDatePattern field .dateTime bound = .ok bound := by
  cases read : moment field value with
  | error error =>
      rw [indexed, read] at taken
      cases taken
  | ok m =>
      have four := hasFourDigits_iff.mpr (plain m.date.year (.inr ⟨rfl, m, read, rfl⟩))
      rw [indexed_default_of_moment read] at taken
      cases taken
      have again := moment_ofList_canonicalChars field m
      rw [if_pos four] at again
      -- what is lost in reading was not written either
      rw [indexed_default_of_moment again, m.canonicalChars_shown]

theorem indexed_of_indexed {type : FieldType} (ordered : type.isOrdered = true)
    (taken : indexed defaultDatePattern field type value = .ok bound)
    (plain : ∀ year, ReadYear field type value year → 0 ≤ year ∧ year ≤ 9999) :
    indexed defaultDatePattern field type bound = .ok bound := by
  cases type with
  | date => exact indexed_date_of_indexed taken plain
  | dateTime => exact indexed_moment_of_indexed taken plain
  | integer | float | decimal => exact number_of_number taken
  | string | text | enum | boolean => cases ordered

def newYearsEve : Date := (Date.ofParts? 2016 12 31).get rfl

end Value
end FieldQuery
