import FieldQuery.Proofs.Text.Numerals
import FieldQuery.Relational.Statement
import FieldQuery.Search.Term

/-!
Which values are numbers. A value of a numeric field is taken exactly when the text between its
blanks is a numeral of the type, and then that text goes into the query as it stands: into
relational text, into the bound of a range and into an exact match. The digits of the numeral may be
those of any script. It is a numeral in ASCII exactly when it has no other characters.
-/

namespace FieldQuery
namespace Value

/-- Whole numbers for a field of integers, and numbers with point and exponent for the others. -/
def numerals (digit : Char → Bool) (type : FieldType) : Language Char :=
  if type = .integer then Text.integers digit else Text.numbers digit

theorem restricts_numerals (type : FieldType) :
    Text.Restricts Text.isAscii (numerals Char.isDigit type)
      (numerals Text.isDecimalDigit type) := by
  by_cases integer : type = .integer
  · simpa only [numerals, integer, if_true] using Text.restricts_integers
  · simpa only [numerals, integer, if_false] using Text.restricts_numbers

theorem number_eq (field : String) (type : FieldType) (value : String) :
    (Text.trim value.toList ∈ numerals Text.isDecimalDigit type ∧
      number field type value = .ok (String.ofList (Text.trim value.toList))) ∨
    (Text.trim value.toList ∉ numerals Text.isDecimalDigit type ∧
      number field type value = .error (.invalidValue field value (.notNumber type))) := by
  have test : (if type = .integer then Text.isInteger (Text.trim value.toList)
      else Text.isNumber (Text.trim value.toList)) = true ↔
      Text.trim value.toList ∈ numerals Text.isDecimalDigit type := by
    by_cases integer : type = .integer
    · simp only [numerals, integer, if_true, Text.isInteger_iff]
    · simp only [numerals, integer, if_false, Text.isNumber_iff]
  by_cases numeral : Text.trim value.toList ∈ numerals Text.isDecimalDigit type
  · exact .inl ⟨numeral, if_pos (test.mpr numeral)⟩
  · exact .inr ⟨numeral, if_neg fun accepted => numeral (test.mp accepted)⟩

theorem number_eq_ok_iff {field : String} {type : FieldType} {value written : String} :
    number field type value = .ok written ↔
      Text.trim value.toList ∈ numerals Text.isDecimalDigit type ∧
        written = String.ofList (Text.trim value.toList) := by
  obtain ⟨numeral, eq⟩ | ⟨other, eq⟩ := number_eq field type value
  · simp [eq, numeral, eq_comm]
  · simp [eq, other]

theorem number_eq_error_iff {field : String} {type : FieldType} {value : String} {error : Error} :
    number field type value = .error error ↔
      Text.trim value.toList ∉ numerals Text.isDecimalDigit type ∧
        error = .invalidValue field value (.notNumber type) := by
  obtain ⟨numeral, eq⟩ | ⟨other, eq⟩ := number_eq field type value
  · simp [eq, numeral]
  · simp [eq, other, eq_comm]

theorem indexed_of_isNumeric {type : FieldType} (numeric : type.isNumeric) (pattern field : String)
    (value : String) : indexed pattern field type value = number field type value := by
  cases type with
  | integer | float | decimal => rfl
  | string | text | enum | boolean | date | dateTime => cases numeric

/-- What a value of a field puts into a query: its literal in relational text, its bound of a range,
and its tokens of an exact match where the field is not analyzed. -/
inductive Emitted (field : String) (type : FieldType) (value : String) : List Char → Prop
  | literal (dialect : RelationalDialect) {literal : Relational.Literal}
      (built : Relational.Literal.ofValue field type value = .ok literal) :
      Emitted field type value (literal.chars dialect)
  | bound {pattern bound : String} (built : indexed pattern field type value = .ok bound) :
      Emitted field type value bound.toList
  | token {pattern token : String} {tokens : List String} {descriptor : FieldDescriptor}
      {values : List String} (typed : descriptor.type = type)
      (unanalyzed : descriptor.analyzed = false)
      (built : Search.matchTokens pattern ⟨field, values, descriptor⟩ value = .ok tokens)
      (mem : token ∈ tokens) : Emitted field type value token.toList

/-- Every form in which a number is emitted is the number as it was checked. -/
theorem Emitted.number {field value : String} {type : FieldType} {cs : List Char}
    (emitted : Emitted field type value cs) (numeric : type.isNumeric) :
    ∃ written, Value.number field type value = .ok written ∧ cs = written.toList := by
  cases emitted with
  | literal dialect built =>
      have own : Relational.Literal.ofValue field type value =
          (Value.number field type value).map .number := by
        cases type with
        | integer | float | decimal => rfl
        | string | text | enum | boolean | date | dateTime => cases numeric
      cases checked : Value.number field type value with
      | error error => simp [own, checked, Except.map] at built
      | ok written =>
          simp only [own, checked, Except.map, Except.ok.injEq] at built
          exact ⟨written, rfl, by rw [← built]; rfl⟩
  | bound built =>
      rw [indexed_of_isNumeric numeric] at built
      exact ⟨_, built, rfl⟩
  | @token pattern token tokens descriptor values typed unanalyzed built mem =>
      have ordered : ResolvedTerm.type ⟨field, values, descriptor⟩ = type := typed
      have isOrdered : type.isOrdered = true := by simp [FieldType.isOrdered, numeric]
      simp only [Search.matchTokens, unanalyzed, ordered, isOrdered,
        indexed_of_isNumeric numeric] at built
      cases checked : Value.number field type value with
      | error error => simp [checked, bind, Except.bind] at built
      | ok written =>
          simp only [checked, bind, Except.bind, pure, Except.pure] at built
          cases built
          exact ⟨written, rfl, by rw [List.mem_singleton.mp mem]⟩

/-- A number is accepted exactly when the text between its blanks is a numeral of the type in the
decimal digits of any script. It is then kept and emitted as it stands, and otherwise the value is
refused with its blanks. The numeral is one in ASCII exactly when all its characters are. -/
theorem number_accepts_decimal_numerals (field : String) (type : FieldType) (value : String) :
    let text := Text.trim value.toList
    (∀ written, number field type value = .ok written ↔
      text ∈ numerals Text.isDecimalDigit type ∧ written = String.ofList text) ∧
    (∀ error, number field type value = .error error ↔
      text ∉ numerals Text.isDecimalDigit type ∧
        error = .invalidValue field value (.notNumber type)) ∧
    (text ∈ numerals Char.isDigit type ↔
      text ∈ numerals Text.isDecimalDigit type ∧ ∀ c ∈ text, Text.isAscii c) ∧
    ∀ cs, type.isNumeric → Emitted field type value cs →
      cs = text ∧ cs ∈ numerals Text.isDecimalDigit type := by
  refine ⟨fun _ => number_eq_ok_iff, fun _ => number_eq_error_iff, restricts_numerals type _, ?_⟩
  intro cs numeric emitted
  obtain ⟨written, accepted, rfl⟩ := emitted.number numeric
  obtain ⟨numeral, rfl⟩ := number_eq_ok_iff.mp accepted
  rw [String.toList_ofList]
  exact ⟨rfl, numeral⟩

/-- The digit three of the Arabic script is an integer, and stands in the query as it is. -/
theorem number_admits_foreign_digit :
    number "qty" .integer "\u0663" = .ok "\u0663" ∧
      Text.trim "\u0663".toList ∉ numerals Char.isDigit .integer ∧
      (Relational.Query.ofTerm ⟨"qty", ["\u0663"], ⟨"qty", .integer, false, false⟩⟩ .equal).map
        (Relational.Query.text .sql) = .ok "qty = \u0663" := by
  refine ⟨by decide, ?_, by decide⟩
  intro ascii
  have all := ((restricts_numerals .integer _).mp ascii).2
  exact absurd (all '\u0663' (by decide)) (by decide)

end Value
end FieldQuery
