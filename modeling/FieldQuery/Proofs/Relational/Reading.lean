import FieldQuery.Proofs.Calendar.RoundTrip
import FieldQuery.Relational.Statement
import Mathlib.Data.List.TakeWhile

/-!
Literals, comparisons and lists of literals can be read back from their text. A string ends at the
first quote that does not stand twice, a date or a moment at its closing quote, and a number at the
first character that no number has, less the blank that belongs to the word after it. So what
follows a literal must be the end of the text, a parenthesis, a comma or one of the joining words.
-/

namespace FieldQuery
namespace Relational

open Calendar
open Text (Reads Stops expect readName readSeries isName)

section Numbers

/-- The characters that a number and the blanks around it are made of. -/
def isNumberChar (c : Char) : Bool :=
  Text.isBlank c || Text.isDecimalDigit c || ['+', '-', '.', 'e', 'E'].contains c

theorem isNumberChar_of_isDecimalDigit {c : Char} (digit : Text.isDecimalDigit c) :
    isNumberChar c := by
  simp [isNumberChar, digit]

theorem holds_or_mem_dropWhile {p : Char → Bool} {c : Char} {cs : List Char} (mem : c ∈ cs) :
    p c ∨ c ∈ cs.dropWhile p := by
  rw [← List.takeWhile_append_dropWhile (p := p) (l := cs), List.mem_append] at mem
  exact mem.imp_left List.mem_takeWhile_imp

theorem isBlank_or_mem_trim {c : Char} {cs : List Char} (mem : c ∈ cs) :
    Text.isBlank c ∨ c ∈ Text.trim cs := by
  obtain blank | mem := holds_or_mem_dropWhile (p := Text.isBlank) mem
  · exact .inl blank
  · rw [Text.trim, List.mem_reverse]
    exact holds_or_mem_dropWhile (List.mem_reverse.mpr mem)

theorem eq_sign_or_mem_skipSign {c : Char} {cs : List Char} (mem : c ∈ cs) :
    c = '+' ∨ c = '-' ∨ c ∈ Text.skipSign cs := by
  fun_cases Text.skipSign cs <;> grind

theorem isNumberChar_of_mem_skipSign {cs : List Char}
    (all : ∀ c ∈ Text.skipSign cs, isNumberChar c) : ∀ c ∈ cs, isNumberChar c := by
  intro c mem
  obtain rfl | rfl | mem := eq_sign_or_mem_skipSign mem
  · decide
  · decide
  · exact all c mem

theorem isNumberChar_of_isInteger {cs : List Char} (integer : Text.isInteger cs) :
    ∀ c ∈ cs, isNumberChar c := by
  simp only [Text.isInteger, Bool.and_eq_true, List.all_eq_true] at integer
  exact isNumberChar_of_mem_skipSign fun c mem =>
    isNumberChar_of_isDecimalDigit (integer.2 c mem)

theorem isNumberChar_of_isExponent {cs : List Char} (exponent : Text.isExponent cs) :
    ∀ c ∈ cs, isNumberChar c := by
  cases cs with
  | nil => simp
  | cons mark cs =>
      simp only [Text.isExponent, Bool.and_eq_true, Bool.or_eq_true, beq_iff_eq] at exponent
      obtain ⟨rfl | rfl, integer⟩ := exponent
      all_goals exact List.forall_mem_cons.mpr ⟨by decide, isNumberChar_of_isInteger integer⟩

theorem isNumberChar_of_isNumber {cs : List Char} (number : Text.isNumber cs) :
    ∀ c ∈ cs, isNumberChar c := by
  apply isNumberChar_of_mem_skipSign
  intro c mem
  obtain digit | mem := holds_or_mem_dropWhile (p := Text.isDecimalDigit) mem
  · exact isNumberChar_of_isDecimalDigit digit
  · simp only [Text.isNumber] at number
    split at number
    · next rest eq =>
        rw [eq] at mem
        obtain rfl | mem := List.mem_cons.mp mem
        · decide
        · obtain digit | mem := holds_or_mem_dropWhile (p := Text.isDecimalDigit) mem
          · exact isNumberChar_of_isDecimalDigit digit
          · exact isNumberChar_of_isExponent (Bool.and_eq_true_iff.mp number).2 c mem
    · exact isNumberChar_of_isExponent (Bool.and_eq_true_iff.mp number).2 c mem

/-- A text that is taken for a number is not empty and has no other characters. -/
theorem isNumberChar_of_number {field digits text : String} {type : FieldType}
    (accepted : Value.number field type digits = .ok text) :
    digits.toList ≠ [] ∧ ∀ c ∈ digits.toList, isNumberChar c := by
  have number : (if type = .integer then Text.isInteger (Text.trim digits.toList)
      else Text.isNumber (Text.trim digits.toList)) = true := by
    by_contra refused
    simp [Value.number, refused] at accepted
  constructor
  · intro empty
    rw [empty] at number
    split at number <;> cases number
  · have inner : ∀ c ∈ Text.trim digits.toList, isNumberChar c := by
      split at number
      · exact isNumberChar_of_isInteger number
      · exact isNumberChar_of_isNumber number
    intro c mem
    obtain blank | mem := isBlank_or_mem_trim mem
    · simp [isNumberChar, blank]
    · exact inner c mem

end Numbers

/-- What may follow a literal. -/
inductive AfterLiteral : List Char → Prop
  | nothing : AfterLiteral []
  | parenthesis (rest : List Char) : AfterLiteral (')' :: rest)
  | comma (rest : List Char) : AfterLiteral (',' :: rest)
  | conjunction (rest : List Char) : AfterLiteral (" AND ".toList ++ rest)
  | disjunction (rest : List Char) : AfterLiteral (" OR ".toList ++ rest)

section Literals

/-- The characters up to the closing quote. A quote that stands twice is meant as one. -/
def readDoubled : List Char → Option (List Char × List Char)
  | [] => none
  | '\x27' :: '\x27' :: cs => (readDoubled cs).map fun r => ('\x27' :: r.1, r.2)
  | '\x27' :: cs => some ([], cs)
  | c :: cs => (readDoubled cs).map fun r => (c :: r.1, r.2)

def readQuoted (cs : List Char) : Option (List Char × List Char) :=
  (expect '\x27' cs).bind readDoubled

def readString (cs : List Char) : Option (Literal × List Char) :=
  (readQuoted cs).map fun r => (.string (String.ofList r.1), r.2)

def readBoolean (value : Bool) (cs : List Char) : Option (Literal × List Char) :=
  ((if value then "TRUE" else "FALSE").toList.isPrefixOf? cs).map fun cs => (.boolean value, cs)

def dateOpening : RelationalDialect → List Char
  | .jpql => "\x7bd ".toList
  | .sql => "DATE ".toList

def momentOpening : RelationalDialect → List Char
  | .jpql => "\x7bts ".toList
  | .sql => "TIMESTAMP ".toList

def temporalClosing : RelationalDialect → List Char
  | .jpql => ['\x7d']
  | .sql => []

/-- A quoted text between fixed marks. -/
def readMarked {α : Type} (opening closing : List Char) (read? : List Char → Option α)
    (cs : List Char) : Option (α × List Char) := do
  let cs ← opening.isPrefixOf? cs
  let (text, cs) ← readQuoted cs
  let cs ← closing.isPrefixOf? cs
  let value ← read? text
  return (value, cs)

def readDate (dialect : RelationalDialect) (cs : List Char) : Option (Literal × List Char) :=
  (readMarked (dateOpening dialect) (temporalClosing dialect) Date.read? cs).map
    fun r => (.date r.1, r.2)

def readMoment (dialect : RelationalDialect) (cs : List Char) : Option (Literal × List Char) :=
  (readMarked (momentOpening dialect) (temporalClosing dialect) Moment.read? cs).map
    fun r => (.moment r.1, r.2)

/-- A number goes as far as its characters do, but the blank before a word belongs to the word. -/
def readNumber (cs : List Char) : Option (Literal × List Char) :=
  let run := cs.takeWhile isNumberChar
  let rest := cs.dropWhile isNumberChar
  if run.isEmpty then none
  else if rest.head?.any Char.isAlpha then
    some (.number (String.ofList run.dropLast), ' ' :: rest)
  else some (.number (String.ofList run), rest)

def readLiteral (dialect : RelationalDialect) (cs : List Char) : Option (Literal × List Char) :=
  readString cs <|> readBoolean true cs <|> readBoolean false cs <|> readDate dialect cs <|>
    readMoment dialect cs <|> readNumber cs

theorem readDoubled_reads (cs : List Char) :
    Reads readDoubled (Stops (· == '\x27')) (doubleQuotes cs ++ ['\x27']) cs := by
  intro rest stops
  induction cs with
  | nil =>
      cases rest with
      | nil => rfl
      | cons c rest =>
          have other : c ≠ '\x27' := by simpa using stops c rfl
          simp [doubleQuotes, readDoubled, other]
  | cons c cs ih =>
      have tail : readDoubled (doubleQuotes cs ++ '\x27' :: rest) = some (cs, rest) := by
        simpa using ih
      by_cases quote : c = '\x27'
      · subst quote
        have text : doubleQuotes ('\x27' :: cs) = '\x27' :: '\x27' :: doubleQuotes cs := by
          simp [doubleQuotes]
        simp [text, readDoubled, tail]
      · have text : doubleQuotes (c :: cs) = c :: doubleQuotes cs := by
          simp [doubleQuotes, quote]
        simp [text, readDoubled, tail, quote]

theorem readQuoted_reads (cs : List Char) :
    Reads readQuoted (Stops (· == '\x27')) (enquote (doubleQuotes cs)) cs := by
  intro rest stops
  have body := readDoubled_reads cs rest stops
  simpa [readQuoted, enquote] using body

theorem doubleQuotes_of_not_mem {cs : List Char} (plain : '\x27' ∉ cs) : doubleQuotes cs = cs := by
  induction cs with
  | nil => rfl
  | cons c cs ih =>
      obtain ⟨head, tail⟩ := List.ne_and_not_mem_of_not_mem_cons plain
      have rest := ih tail
      simp only [doubleQuotes] at rest ⊢
      simp [Ne.symm head, rest]

theorem readMarked_reads {α : Type} (opening closing : List Char) {text : List Char}
    {read? : List Char → Option α} {value : α} (plain : '\x27' ∉ text)
    (read : read? text = some value) :
    Reads (readMarked opening closing read?) (fun rest => Stops (· == '\x27') (closing ++ rest))
      (opening ++ enquote text ++ closing) value := by
  intro rest stops
  have body := readQuoted_reads text (closing ++ rest) stops
  rw [doubleQuotes_of_not_mem plain] at body
  simp only [readMarked, List.append_assoc, Text.isPrefixOf?_append, body, read,
    Option.bind_eq_bind, Option.bind_some, Option.pure_def]

theorem AfterLiteral.stops_quote {rest : List Char} (after : AfterLiteral rest) :
    Stops (· == '\x27') rest := by
  cases after with
  | nothing => simp [Stops]
  | parenthesis | comma | conjunction | disjunction => exact Text.stops_cons (by decide) _

theorem AfterLiteral.stops_closing {rest : List Char} (after : AfterLiteral rest)
    (dialect : RelationalDialect) : Stops (· == '\x27') (temporalClosing dialect ++ rest) := by
  cases dialect with
  | jpql => exact Text.stops_cons (by decide) rest
  | sql => exact after.stops_quote

theorem readString_reads (value : String) :
    Reads readString AfterLiteral (enquote (doubleQuotes value.toList)) (.string value) := by
  intro rest after
  simp [readString, readQuoted_reads value.toList rest after.stops_quote]

theorem readDate_reads (dialect : RelationalDialect) (d : Date) :
    Reads (readDate dialect) AfterLiteral (dateLiteral dialect d.chars) (.date d) := by
  intro rest after
  have text : dateLiteral dialect d.chars =
      dateOpening dialect ++ enquote d.chars ++ temporalClosing dialect := by
    cases dialect with
    | jpql => rfl
    | sql => exact (List.append_nil _).symm
  have read := readMarked_reads (dateOpening dialect) (temporalClosing dialect)
    d.quote_not_mem_chars d.read?_chars rest (after.stops_closing dialect)
  rw [readDate, text, read, Option.map_some]

theorem readMoment_reads (dialect : RelationalDialect) (m : Moment) :
    Reads (readMoment dialect) AfterLiteral (momentLiteral dialect m.chars)
      (.moment m.shown) := by
  intro rest after
  have text : momentLiteral dialect m.chars =
      momentOpening dialect ++ enquote m.chars ++ temporalClosing dialect := by
    cases dialect with
    | jpql => rfl
    | sql => exact (List.append_nil _).symm
  have read := readMarked_reads (momentOpening dialect) (temporalClosing dialect)
    m.quote_not_mem_chars m.read?_chars rest (after.stops_closing dialect)
  rw [readMoment, text, read, Option.map_some]

theorem readNumber_run {run rest : List Char} (nonempty : run ≠ [])
    (all : ∀ c ∈ run, isNumberChar c) (stops : Stops isNumberChar rest) :
    readNumber (run ++ rest) =
      if rest.head?.any Char.isAlpha then
        some (.number (String.ofList run.dropLast), ' ' :: rest)
      else some (.number (String.ofList run), rest) := by
  simp [readNumber, Text.takeWhile_of_stops all stops, Text.dropWhile_of_stops all stops, nonempty]

theorem readNumber_word {run : List Char} (all : ∀ c ∈ run, isNumberChar c)
    {c : Char} (letter : c.isAlpha) (other : isNumberChar c = false) (rest : List Char) :
    readNumber (run ++ ' ' :: c :: rest) =
      some (.number (String.ofList run), ' ' :: c :: rest) := by
  -- The run goes on over the blank, which is then given back.
  have blank : ∀ c ∈ run ++ [' '], isNumberChar c :=
    List.forall_mem_append.mpr ⟨all, List.forall_mem_singleton.mpr (by decide)⟩
  have read := readNumber_run (List.append_ne_nil_of_right_ne_nil run (List.cons_ne_nil ' ' []))
    blank (Text.stops_cons other rest)
  simpa [letter] using read

theorem readNumber_reads {digits : String} (nonempty : digits.toList ≠ [])
    (all : ∀ c ∈ digits.toList, isNumberChar c) :
    Reads readNumber AfterLiteral digits.toList (.number digits) := by
  intro rest after
  cases after with
  | nothing =>
      rw [readNumber_run nonempty all (by simp [Stops])]
      simp
  | parenthesis rest | comma rest =>
      rw [readNumber_run nonempty all (Text.stops_cons (by decide) rest)]
      simp
  | conjunction rest =>
      have read := readNumber_word all (c := 'A') (by decide) (by decide) ("ND ".toList ++ rest)
      rwa [String.ofList_toList] at read
  | disjunction rest =>
      have read := readNumber_word all (c := 'O') (by decide) (by decide) ("R ".toList ++ rest)
      rwa [String.ofList_toList] at read

/-- What the text of a literal shows of it: a moment to the second, where a leap second within a
minute looks like the second after it. -/
def Literal.shown : Literal → Literal
  | .moment m => .moment m.shown
  | literal => literal

/-- A number is a text that is taken for one on a field of some type. -/
def Literal.Checked : Literal → Prop
  | .number digits => ∃ field type text, Value.number field type digits = .ok text
  | _ => True

theorem readMarked_eq_none {α : Type} {opening cs : List Char}
    (failed : opening.isPrefixOf? cs = none) (closing : List Char)
    (read? : List Char → Option α) : readMarked opening closing read? cs = none := by
  simp [readMarked, failed]

/-- A number begins with none of the characters that begin other literals. -/
theorem readLiteral_number {digits : List Char} (nonempty : digits ≠ [])
    (all : ∀ c ∈ digits, isNumberChar c) (dialect : RelationalDialect) (rest : List Char) :
    readLiteral dialect (digits ++ rest) = readNumber (digits ++ rest) := by
  obtain ⟨c, cs, rfl⟩ := List.exists_cons_of_ne_nil nonempty
  have other : ∀ mark ∈ ['\x27', 'T', 'F', 'D', '\x7b'], mark ≠ c := by
    have unused : ['\x27', 'T', 'F', 'D', '\x7b'].all (!isNumberChar ·) := by decide
    rintro mark mem rfl
    have number := all mark (by simp)
    have := List.all_eq_true.mp unused mark mem
    simp [number] at this
  simp only [List.forall_mem_cons] at other
  obtain ⟨quote, t, f, d, brace, -⟩ := other
  rw [List.cons_append]
  generalize cs ++ rest = cs
  have string : readString (c :: cs) = none := by
    simp [readString, readQuoted, expect, Ne.symm quote]
  have affirmative : readBoolean true (c :: cs) = none :=
    congrArg _ (Text.isPrefixOf?_cons_of_ne t _ _)
  have negative : readBoolean false (c :: cs) = none :=
    congrArg _ (Text.isPrefixOf?_cons_of_ne f _ _)
  have date : (dateOpening dialect).isPrefixOf? (c :: cs) = none := by
    cases dialect with
    | jpql => exact Text.isPrefixOf?_cons_of_ne brace _ _
    | sql => exact Text.isPrefixOf?_cons_of_ne d _ _
  have moment : (momentOpening dialect).isPrefixOf? (c :: cs) = none := by
    cases dialect with
    | jpql => exact Text.isPrefixOf?_cons_of_ne brace _ _
    | sql => exact Text.isPrefixOf?_cons_of_ne t _ _
  simp [readLiteral, string, affirmative, negative, readDate, readMoment, readMarked_eq_none date,
    readMarked_eq_none moment]

theorem readLiteral_reads (dialect : RelationalDialect) {literal : Literal}
    (checked : literal.Checked) :
    Reads (readLiteral dialect) AfterLiteral (literal.chars dialect) literal.shown := by
  intro rest after
  cases literal with
  | string value =>
      simp [readLiteral, Literal.chars, readString_reads value rest after, Literal.shown]
  | number digits =>
      obtain ⟨field, type, text, accepted⟩ := checked
      obtain ⟨nonempty, all⟩ := isNumberChar_of_number accepted
      rw [Literal.chars, readLiteral_number nonempty all]
      exact readNumber_reads nonempty all rest after
  | boolean value => cases value <;> rfl
  | date d =>
      have others : readString (dateLiteral dialect d.chars ++ rest) = none ∧
          readBoolean true (dateLiteral dialect d.chars ++ rest) = none ∧
          readBoolean false (dateLiteral dialect d.chars ++ rest) = none := by
        cases dialect <;> exact ⟨rfl, rfl, rfl⟩
      simp [readLiteral, Literal.chars, others, readDate_reads dialect d rest after, Literal.shown]
  | moment m =>
      have others : readString (momentLiteral dialect m.chars ++ rest) = none ∧
          readBoolean true (momentLiteral dialect m.chars ++ rest) = none ∧
          readBoolean false (momentLiteral dialect m.chars ++ rest) = none ∧
          readDate dialect (momentLiteral dialect m.chars ++ rest) = none := by
        cases dialect <;> exact ⟨rfl, rfl, rfl, rfl⟩
      simp [readLiteral, Literal.chars, others, readMoment_reads dialect m rest after,
        Literal.shown]

end Literals

section Conditions

def readNextLiteral (dialect : RelationalDialect) (cs : List Char) :
    Option (Literal × List Char) :=
  ([',', ' '].isPrefixOf? cs).bind (readLiteral dialect)

/-- The literals of a list up to its closing parenthesis. -/
def readMembers (dialect : RelationalDialect) (cs : List Char) :
    Option (List Literal × List Char) :=
  let inner := readSeries (readLiteral dialect) (readNextLiteral dialect) cs
  (expect ')' inner.2).map fun cs => (inner.1, cs)

/-- The part of a membership condition after its field. -/
def readInList (dialect : RelationalDialect) (field : String) (negated : Bool) (cs : List Char) :
    Option (Query × List Char) := do
  let cs ← (if negated then " NOT IN (" else " IN (").toList.isPrefixOf? cs
  let (literals, cs) ← readMembers dialect cs
  return (.inList field negated literals, cs)

/-- The part of a comparison after its field. The token of the operator goes up to a blank. -/
def readComparison (dialect : RelationalDialect) (field : String) (cs : List Char) :
    Option (Query × List Char) := do
  let cs ← expect ' ' cs
  let operator ← Operator.ofToken? (String.ofList (cs.takeWhile (· != ' ')))
  let cs ← expect ' ' (cs.dropWhile (· != ' '))
  let (literal, cs) ← readLiteral dialect cs
  return (.comparison field operator literal, cs)

/-- A condition on one field. -/
def readCondition (dialect : RelationalDialect) (cs : List Char) :
    Option (Query × List Char) := do
  let (field, cs) ← readName cs
  readInList dialect field true cs <|> readInList dialect field false cs <|>
    readComparison dialect field cs

theorem readLiteral_eq_none (dialect : RelationalDialect) (rest : List Char) :
    readLiteral dialect (')' :: rest) = none := by
  cases dialect <;> rfl

theorem readMembers_reads (dialect : RelationalDialect) {literals : List Literal}
    (checked : ∀ literal ∈ literals, literal.Checked) (rest : List Char) :
    readMembers dialect
        ([',', ' '].intercalate (literals.map (Literal.chars dialect)) ++ ')' :: rest) =
      some (literals.map Literal.shown, rest) := by
  suffices series : readSeries (readLiteral dialect) (readNextLiteral dialect)
      ([',', ' '].intercalate (literals.map (Literal.chars dialect)) ++ ')' :: rest) =
        (literals.map Literal.shown, ')' :: rest) by
    simp [readMembers, series]
  cases literals with
  | nil => exact Text.readSeries_nil (readLiteral_eq_none dialect rest)
  | cons first others =>
      obtain ⟨own, checked⟩ := List.forall_mem_cons.mp checked
      have each : ∀ literal ∈ others, Reads (readNextLiteral dialect) AfterLiteral
          ([',', ' '] ++ literal.chars dialect) literal.shown := by
        intro literal mem rest after
        rw [readNextLiteral, List.append_assoc, Text.isPrefixOf?_append, Option.bind_some]
        exact readLiteral_reads dialect (checked literal mem) rest after
      rw [List.map_cons, Text.intercalate_cons_eq_flatMap, List.flatMap_map]
      exact Text.readSeries_cons (readLiteral_reads dialect own) each (by simp)
        (fun _ _ _ => .comma _) (.parenthesis rest) rfl

theorem ofToken?_token (operator : Operator) :
    Operator.ofToken? operator.token = some operator := by
  cases operator <;> rfl

theorem readInList_reads (dialect : RelationalDialect) (field : String) (negated : Bool)
    {literals : List Literal} (checked : ∀ literal ∈ literals, literal.Checked)
    (rest : List Char) :
    readInList dialect field negated ((if negated then " NOT IN (" else " IN (").toList ++
        ([',', ' '].intercalate (literals.map (Literal.chars dialect)) ++ ')' :: rest)) =
      some (.inList field negated (literals.map Literal.shown), rest) := by
  simp only [readInList, Text.isPrefixOf?_append, readMembers_reads dialect checked,
    Option.bind_eq_bind, Option.bind_some, Option.pure_def]

theorem readComparison_reads (dialect : RelationalDialect) (field : String) (operator : Operator)
    {literal : Literal} (checked : literal.Checked) :
    Reads (readComparison dialect field) AfterLiteral
      (' ' :: operator.token.toList ++ ' ' :: literal.chars dialect)
      (.comparison field operator literal.shown) := by
  intro rest after
  have token : ∀ c ∈ operator.token.toList, c != ' ' :=
    List.all_eq_true.mp (by cases operator <;> decide)
  have stops : ∀ more, Stops (· != ' ') (' ' :: more) := Text.stops_cons (by decide)
  simp only [readComparison, List.cons_append, List.append_assoc, Text.expect_cons,
    Text.takeWhile_of_stops token (stops _), Text.dropWhile_of_stops token (stops _),
    String.ofList_toList, ofToken?_token, readLiteral_reads dialect checked rest after,
    Option.bind_eq_bind, Option.bind_some, Option.pure_def]

theorem readName_blank {field : String} (named : isName field) (rest : List Char) :
    readName (field.toList ++ ' ' :: rest) = some (field, ' ' :: rest) :=
  Text.readName_reads named _ (Text.stops_cons (by decide) rest)

theorem readCondition_comparison (dialect : RelationalDialect) {field : String}
    (named : isName field) (operator : Operator) {literal : Literal} (checked : literal.Checked) :
    Reads (readCondition dialect) AfterLiteral (comparisonChars dialect field operator literal)
      (.comparison field operator literal.shown) := by
  intro rest after
  have read := readComparison_reads dialect field operator checked rest after
  have others : ∀ negated, readInList dialect field negated
      (' ' :: operator.token.toList ++ ' ' :: literal.chars dialect ++ rest) = none := by
    intro negated
    cases negated <;> cases operator <;> rfl
  simp only [comparisonChars, List.append_assoc, List.cons_append] at read others ⊢
  simp [readCondition, readName_blank named, others, read]

theorem readCondition_inList (dialect : RelationalDialect) {field : String} (named : isName field)
    (negated : Bool) {literals : List Literal} (checked : ∀ literal ∈ literals, literal.Checked) :
    Reads (readCondition dialect) AfterLiteral (inListChars dialect field negated literals)
      (.inList field negated (literals.map Literal.shown)) := by
  intro rest _
  have read := readInList_reads dialect field negated checked rest
  have name : ∀ more, readName (field.toList ++
      ((if negated then " NOT IN (" else " IN (").toList ++ more)) =
        some (field, (if negated then " NOT IN (" else " IN (").toList ++ more) := by
    intro more
    cases negated <;> exact readName_blank named _
  have otherwise : ∀ more, readInList dialect field true (" IN (".toList ++ more) = none :=
    fun _ => rfl
  simp only [inListChars, readCondition, List.append_assoc, List.singleton_append, name,
    Option.bind_eq_bind, Option.bind_some]
  cases negated with
  | true =>
      simp only [if_true] at read ⊢
      rw [read]
      rfl
  | false =>
      simp only [Bool.false_eq_true, if_false] at read ⊢
      rw [otherwise, read]
      rfl

end Conditions

end Relational
end FieldQuery
