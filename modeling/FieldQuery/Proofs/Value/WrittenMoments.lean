import FieldQuery.Proofs.Calendar.Canonical
import FieldQuery.Relational.Statement

/-!
What becomes of a moment that is written into a query and read again. The quoted text of a literal
is read as what can be seen of the moment, whatever the year. The bound of a range by the default
date pattern is read in the same way if the year has four digits, and is no moment otherwise. What
can be seen of a moment that was itself read from a text is all but its fraction of a second, so
that two of them look the same exactly when they differ in the fraction at most; a leap second stays
apart.
-/

namespace FieldQuery

namespace Text

theorem skipBlanks_of_stops {cs : List Char} (stops : Stops isBlank cs) : skipBlanks cs = cs := by
  cases cs with
  | nil => rfl
  | cons c cs => simp [skipBlanks, stops c rfl]

/-- A text that neither begins nor ends with a blank has nothing to trim. -/
theorem trim_eq_self {cs : List Char} (front : Stops isBlank cs) (back : Stops isBlank cs.reverse) :
    trim cs = cs := by
  rw [trim, skipBlanks_of_stops front, skipBlanks_of_stops back, List.reverse_reverse]

end Text

namespace Calendar

theorem Numeral.not_isBlank {n : Nat} {ds : List Char} (numeral : Numeral n ds) :
    ∀ c ∈ ds, Text.isBlank c = false :=
  fun c mem => not_isBlank_of_isDigit (numeral.digits c mem)

theorem not_isBlank_of_mem_yearChars (year : Int) :
    ∀ c ∈ yearChars .zero year, Text.isBlank c = false := by
  have digits := (numeral_zeroPadded 4 year.natAbs).not_isBlank
  obtain ⟨-, -, text⟩ | ⟨-, text⟩ | ⟨-, text⟩ := yearChars_cases year
  · rwa [text]
  · rw [text]
    exact List.forall_mem_cons.mpr ⟨by decide, digits⟩
  · rw [text]
    exact List.forall_mem_cons.mpr ⟨by decide, digits⟩

theorem Date.not_isBlank_of_mem_chars (d : Date) : ∀ c ∈ d.chars, Text.isBlank c = false := by
  simp only [Date.chars, List.forall_mem_append, List.forall_mem_cons]
  exact ⟨⟨not_isBlank_of_mem_yearChars d.year, by decide, d.numeral_month.not_isBlank⟩, by decide,
    d.numeral_day.not_isBlank⟩

theorem ClockTime.not_isBlank_of_mem_chars (t : ClockTime) :
    ∀ c ∈ t.chars, Text.isBlank c = false := by
  simp only [ClockTime.chars, List.forall_mem_append, List.forall_mem_cons]
  exact ⟨⟨t.numeral_hour.not_isBlank, by decide, t.numeral_minute.not_isBlank⟩, by decide,
    t.numeral_second.not_isBlank⟩

theorem Date.chars_ne_nil (d : Date) : d.chars ≠ [] :=
  List.append_ne_nil_of_right_ne_nil _ (List.cons_ne_nil _ _)

theorem ClockTime.chars_ne_nil (t : ClockTime) : t.chars ≠ [] :=
  List.append_ne_nil_of_right_ne_nil _ (List.cons_ne_nil _ _)

namespace Moment

theorem trim_chars (m : Moment) : Text.trim m.chars = m.chars := by
  apply Text.trim_eq_self
  · exact Text.stops_append m.date.chars_ne_nil m.date.not_isBlank_of_mem_chars _
  · rw [Moment.chars, List.reverse_append, List.reverse_cons, List.append_assoc]
    apply Text.stops_append
    · exact mt List.reverse_eq_nil_iff.mp m.time.chars_ne_nil
    · simpa using m.time.not_isBlank_of_mem_chars

theorem trim_canonicalChars (m : Moment) : Text.trim m.canonicalChars = m.canonicalChars := by
  apply Text.trim_eq_self
  · rw [canonicalChars, List.append_assoc]
    exact Text.stops_append m.date.chars_ne_nil m.date.not_isBlank_of_mem_chars _
  · rw [canonicalChars, List.reverse_append]
    exact Text.stops_cons (by decide) _

end Moment
end Calendar

namespace Relational

open Calendar

/-- The text between the first quote and the next. -/
def betweenQuotes (text : String) : String :=
  String.ofList (((text.toList.dropWhile (· != '\x27')).drop 1).takeWhile (· != '\x27'))

theorem betweenQuotes_enquote {text : List Char} (opening closing : List Char)
    (before : '\x27' ∉ opening) (inside : '\x27' ∉ text) :
    betweenQuotes (String.ofList (opening ++ enquote text ++ closing)) = String.ofList text := by
  have other : ∀ {cs : List Char}, '\x27' ∉ cs → ∀ c ∈ cs, (c != '\x27') = true := by
    intro cs absent c mem
    rw [bne_iff_ne]
    rintro rfl
    exact absent mem
  have stops : ∀ rest, Text.Stops (· != '\x27') ('\x27' :: rest) :=
    fun rest => Text.stops_cons (by decide) rest
  have front := Text.dropWhile_of_stops (other before) (stops (text ++ '\x27' :: closing))
  have body := Text.takeWhile_of_stops (other inside) (stops closing)
  simp [betweenQuotes, enquote, front, body]

theorem betweenQuotes_moment (dialect : RelationalDialect) (m : Moment) :
    betweenQuotes ((Literal.moment m).text dialect) = String.ofList m.chars := by
  cases dialect with
  | jpql =>
      exact betweenQuotes_enquote "\x7bts ".toList ['\x7d'] (by decide) m.quote_not_mem_chars
  | sql =>
      have quoted := betweenQuotes_enquote "TIMESTAMP ".toList [] (by decide)
        m.quote_not_mem_chars
      rwa [List.append_nil] at quoted

theorem moment_text_shown (dialect : RelationalDialect) (m : Moment) :
    (Literal.moment m.shown).text dialect = (Literal.moment m).text dialect :=
  congrArg (fun cs => String.ofList (momentLiteral dialect cs)) m.chars_shown

theorem moment_text_eq_iff (dialect : RelationalDialect) {m n : Moment} :
    (Literal.moment m).text dialect = (Literal.moment n).text dialect ↔
      m.shown = n.shown := by
  rw [← Moment.chars_eq_iff]
  constructor
  · intro same
    have inside := congrArg betweenQuotes same
    rw [betweenQuotes_moment, betweenQuotes_moment] at inside
    exact String.ofList_injective inside
  · intro same
    exact congrArg (fun cs => String.ofList (momentLiteral dialect cs)) same

end Relational

namespace Value

open Calendar
open Relational (Literal betweenQuotes)

section Trimmed

variable {cs : List Char}

theorem moment_of_read? (field : String) (trimmed : Text.trim cs = cs) {m : Moment}
    (read : Moment.read? cs = some m) : moment field (String.ofList cs) = .ok m := by
  simp only [moment, String.toList_ofList, trimmed, read]

theorem moment_of_not_read? (field : String) (trimmed : Text.trim cs = cs)
    (unread : Moment.read? cs = none) :
    moment field (String.ofList cs) =
      .error (.invalidValue field (String.ofList cs) .notDate) := by
  simp only [moment, String.toList_ofList, trimmed, unread]

end Trimmed

theorem moment_ofList_chars (field : String) (m : Moment) :
    moment field (String.ofList m.chars) = .ok m.shown :=
  moment_of_read? field m.trim_chars m.read?_chars

theorem moment_ofList_canonicalChars (field : String) (m : Moment) :
    moment field (String.ofList m.canonicalChars) =
      if hasFourDigits m.date.year then .ok m.shown
      else .error (.invalidValue field (String.ofList m.canonicalChars) .notDate) := by
  have read := m.read?_canonicalChars
  by_cases plain : hasFourDigits m.date.year
  · rw [if_pos plain] at read ⊢
    exact moment_of_read? field m.trim_canonicalChars read
  · rw [if_neg plain] at read ⊢
    exact moment_of_not_read? field m.trim_canonicalChars read

/-- A moment that was read has no leap second within a minute. -/
theorem shown_of_moment {field value : String} {m : Moment} (read : moment field value = .ok m) :
    m.shown = m.wholeSecond := by
  rw [moment] at read
  split at read
  · next found =>
      cases read
      exact Moment.shown_of_leapEndsMinute (Moment.leapEndsMinute_of_read? found)
  · cases read

theorem indexed_default_of_moment {field value : String} {m : Moment}
    (read : moment field value = .ok m) :
    indexed defaultDatePattern field .dateTime value = .ok (String.ofList m.canonicalChars) := by
  show (moment field value).bind (formatted defaultDatePattern) = _
  rw [read, Except.bind, formatted, m.format?_default]

/-- A moment that is written into a query is read back from there without its fraction of a second,
and so as it was if it has none. From the bound of a range it is read back only if its year has four
digits. Two moments are written alike exactly when they are the same up to the fraction. -/
theorem moment_text_reads_back {field value : String} {m : Moment}
    (read : moment field value = .ok m) :
    (∀ dialect,
      moment field (betweenQuotes ((Literal.moment m).text dialect)) = .ok m.wholeSecond) ∧
    (∃ bound, indexed defaultDatePattern field .dateTime value = .ok bound ∧
      moment field bound =
        if hasFourDigits m.date.year then .ok m.wholeSecond
        else .error (.invalidValue field bound .notDate)) ∧
    (m.wholeSecond = m ↔ m.time.fraction = 0) ∧
    ∀ other n, moment field other = .ok n →
      (∀ dialect, (Literal.moment m).text dialect = (Literal.moment n).text dialect ↔
        m.wholeSecond = n.wholeSecond) ∧
      (indexed defaultDatePattern field .dateTime value =
          indexed defaultDatePattern field .dateTime other ↔
        m.wholeSecond = n.wholeSecond) := by
  rw [← shown_of_moment read]
  refine ⟨?_, ⟨_, indexed_default_of_moment read, moment_ofList_canonicalChars field m⟩, ?_, ?_⟩
  · intro dialect
    rw [Relational.betweenQuotes_moment, moment_ofList_chars]
  · rw [shown_of_moment read]
    exact Moment.wholeSecond_eq_self_iff
  · intro other n otherRead
    rw [← shown_of_moment otherRead]
    refine ⟨fun dialect => Relational.moment_text_eq_iff dialect, ?_⟩
    rw [indexed_default_of_moment read, indexed_default_of_moment otherRead, Except.ok.injEq,
      String.ofList_inj, Moment.canonicalChars_eq_iff]

/-- A quarter of a second into the leap second at the end of 2016, the quarter is lost and the leap
second is not, also where the value names another day. -/
theorem moment_text_reads_back_leap :
    ∃ m, moment "at" "2017-01-01T00:59:60.25+01:00" = .ok m ∧
      m.date.year = 2016 ∧ m.time.writtenSecond = 60 ∧
      (∀ dialect, moment "at" (betweenQuotes ((Literal.moment m).text dialect)) =
        .ok m.wholeSecond) ∧
      m.wholeSecond.time.writtenSecond = 60 ∧ m.wholeSecond ≠ m := by
  have read : moment "at" "2017-01-01T00:59:60.25+01:00" =
      .ok ⟨⟨2016, 12, 31, by decide, by decide⟩,
        ⟨23, 59, 59, 1250000000, by decide, by decide, by decide, by decide⟩⟩ := by
    decide
  have back := moment_text_reads_back read
  refine ⟨_, read, rfl, rfl, back.1, rfl, ?_⟩
  rw [ne_eq, back.2.2.1]
  decide

/-- A quarter to two on a leap day, ten seconds later, with a fraction of a second. -/
def onLeapDay (nanosecond : Nat) (nanosecond_lt : nanosecond < 2 * nanosPerSecond) : Moment :=
  ⟨⟨2024, 2, 29, by decide, by decide⟩,
    ⟨13, 45, 10, nanosecond, by decide, by decide, by decide, nanosecond_lt⟩⟩

/-- Half a second is lost in every writing, so that two values become one, and the bound for a year
of five digits cannot be read at all. -/
theorem moment_text_loses :
    (∃ m n, moment "at" "2024-02-29T13:45:10.5Z" = .ok m ∧
      moment "at" "2024-02-29T13:45:10Z" = .ok n ∧ m ≠ n ∧
      ∀ dialect, moment "at" (betweenQuotes ((Literal.moment m).text dialect)) = .ok n ∧
        (Literal.moment m).text dialect = (Literal.moment n).text dialect) ∧
    indexed defaultDatePattern "at" .dateTime "2024-02-29T13:45:10.5Z" =
      .ok "2024-02-29T13:45:10Z" ∧
    indexed defaultDatePattern "at" .dateTime "+12345-01-01" = .ok "+12345-01-01T00:00:00Z" ∧
    moment "at" "+12345-01-01T00:00:00Z" =
      .error (.invalidValue "at" "+12345-01-01T00:00:00Z" .notDate) := by
  refine ⟨⟨onLeapDay 500000000 (by decide), onLeapDay 0 (by decide), by decide, by decide,
    by decide, ?_⟩, by decide, by decide, by decide⟩
  intro dialect
  rw [Relational.betweenQuotes_moment, moment_ofList_chars]
  exact ⟨rfl, (Relational.moment_text_eq_iff dialect).mpr rfl⟩

end Value
end FieldQuery
