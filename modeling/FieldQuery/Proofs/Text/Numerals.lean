import FieldQuery.Proofs.Text.Readers
import Mathlib.Computability.Language
import Mathlib.Data.List.TakeWhile

/-!
Integers and numbers as languages over a class of digits, and the texts that are taken for them. The
tests walk over the text once and take as many digits as there are; this loses nothing, because a
run of digits is always followed by the end, a point or an exponent mark, none of which is a digit.

A word of such a language over a smaller class of digits is a word over the larger class whose
characters are all in the smaller alphabet, since each way to build a language respects that.
-/

namespace FieldQuery
namespace Text

open Computability

section Languages

/-- A single character of the class. -/
def oneOf (p : Char → Bool) : Language Char := {cs | ∃ c, p c ∧ cs = [c]}

def isSign (c : Char) : Bool := c == '+' || c == '-'

def isPoint (c : Char) : Bool := c == '.'

def isExponentMark (c : Char) : Bool := c == 'e' || c == 'E'

theorem isSign_iff {c : Char} : isSign c ↔ c = '+' ∨ c = '-' := by
  simp [isSign]

theorem isExponentMark_iff {c : Char} : isExponentMark c ↔ c = 'e' ∨ c = 'E' := by
  simp [isExponentMark]

variable (digit : Char → Bool)

def digitRuns : Language Char := oneOf digit * (oneOf digit)∗

/-- The pattern `[+-]?D+`, where `D` is a digit. -/
def integers : Language Char := (1 + oneOf isSign) * digitRuns digit

/-- The pattern `D+(\.D*)?|\.D+`. -/
def mantissas : Language Char :=
  digitRuns digit * (1 + oneOf isPoint * (oneOf digit)∗) + oneOf isPoint * digitRuns digit

/-- The pattern `([eE][+-]?D+)?`. -/
def exponents : Language Char := 1 + oneOf isExponentMark * integers digit

/-- The pattern `[+-]?(D+(\.D*)?|\.D+)([eE][+-]?D+)?`. -/
def numbers : Language Char := (1 + oneOf isSign) * (mantissas digit * exponents digit)

end Languages

section Membership

variable {p digit : Char → Bool} {cs : List Char} {L : Language Char}

theorem mem_oneOf_mul : cs ∈ oneOf p * L ↔ ∃ c rest, p c ∧ rest ∈ L ∧ cs = c :: rest := by
  rw [Language.mem_mul]
  constructor
  · rintro ⟨_, ⟨c, hc, rfl⟩, rest, hrest, rfl⟩
    exact ⟨c, rest, hc, hrest, rfl⟩
  · rintro ⟨c, rest, hc, hrest, rfl⟩
    exact ⟨[c], ⟨c, hc, rfl⟩, rest, hrest, rfl⟩

theorem mem_optional_mul {M : Language Char} : cs ∈ (1 + M) * L ↔ cs ∈ L ∨ cs ∈ M * L := by
  rw [add_mul, one_mul, Language.mem_add]

theorem mem_kstar_oneOf : cs ∈ (oneOf p)∗ ↔ ∀ c ∈ cs, p c := by
  constructor
  · intro h
    obtain ⟨words, rfl, each⟩ := Language.mem_kstar.mp h
    intro c mem
    obtain ⟨word, hword, hc⟩ := List.mem_flatten.mp mem
    obtain ⟨d, hd, rfl⟩ := each word hword
    rwa [List.mem_singleton.mp hc]
  · intro all
    refine Language.mem_kstar.mpr ⟨cs.map fun c => [c], ?_, ?_⟩
    · induction cs with
      | nil => rfl
      | cons c cs ih => simpa using ih fun d hd => all d (List.mem_cons_of_mem c hd)
    · intro word hword
      obtain ⟨c, hc, rfl⟩ := List.mem_map.mp hword
      exact ⟨c, all c hc, rfl⟩

theorem mem_digitRuns : cs ∈ digitRuns digit ↔ cs ≠ [] ∧ ∀ c ∈ cs, digit c := by
  rw [digitRuns, mem_oneOf_mul]
  constructor
  · rintro ⟨c, rest, hc, hrest, rfl⟩
    refine ⟨List.cons_ne_nil c rest, ?_⟩
    exact List.forall_mem_cons.mpr ⟨hc, mem_kstar_oneOf.mp hrest⟩
  · rintro ⟨nonempty, all⟩
    cases cs with
    | nil => exact absurd rfl nonempty
    | cons c rest =>
        obtain ⟨hc, hrest⟩ := List.forall_mem_cons.mp all
        exact ⟨c, rest, hc, mem_kstar_oneOf.mpr hrest, rfl⟩

/-- The sign before a word can be told from the word if no word begins with a sign. -/
theorem mem_signed_iff (unsigned : ∀ c rest, c :: rest ∈ L → isSign c = false) :
    cs ∈ (1 + oneOf isSign) * L ↔ skipSign cs ∈ L := by
  rw [mem_optional_mul, mem_oneOf_mul]
  cases cs with
  | nil => simp [skipSign]
  | cons c rest =>
      by_cases sign : isSign c
      · have skip : skipSign (c :: rest) = rest := by
          obtain rfl | rfl := isSign_iff.mp sign <;> rfl
        have own : c :: rest ∉ L := fun mem => by simp [unsigned c rest mem] at sign
        simp [skip, own, sign]
      · have other : c ≠ '+' ∧ c ≠ '-' := by rwa [isSign_iff, not_or] at sign
        have skip : skipSign (c :: rest) = c :: rest := by simp [skipSign, other]
        simp [skip, sign]

/-- A mantissa has a digit on at least one side of its point, or no point. -/
theorem mem_mantissas : cs ∈ mantissas digit ↔
    cs ∈ digitRuns digit ∨
    ∃ whole part, (whole ≠ [] ∨ part ≠ []) ∧ (∀ c ∈ whole, digit c) ∧ (∀ c ∈ part, digit c) ∧
      cs = whole ++ '.' :: part := by
  rw [mantissas, Language.mem_add, mul_add, mul_one, Language.mem_add, Language.mem_mul,
    mem_oneOf_mul]
  constructor
  · rintro ((run | ⟨whole, run, _, fraction, rfl⟩) | ⟨c, part, point, run, rfl⟩)
    · exact .inl run
    · obtain ⟨c, part, point, all, rfl⟩ := mem_oneOf_mul.mp fraction
      obtain ⟨nonempty, wholeDigits⟩ := mem_digitRuns.mp run
      refine .inr ⟨whole, part, .inl nonempty, wholeDigits, mem_kstar_oneOf.mp all, ?_⟩
      rw [show c = '.' from beq_iff_eq.mp point]
    · obtain ⟨nonempty, partDigits⟩ := mem_digitRuns.mp run
      refine .inr ⟨[], part, .inr nonempty, by simp, partDigits, ?_⟩
      rw [show c = '.' from beq_iff_eq.mp point, List.nil_append]
  · rintro (run | ⟨whole, part, some, wholeDigits, partDigits, rfl⟩)
    · exact .inl (.inl run)
    · by_cases empty : whole = []
      · subst empty
        have nonempty : part ≠ [] := some.resolve_left (· rfl)
        exact .inr ⟨'.', part, rfl, mem_digitRuns.mpr ⟨nonempty, partDigits⟩, rfl⟩
      · have fraction : '.' :: part ∈ oneOf isPoint * (oneOf digit)∗ :=
          mem_oneOf_mul.mpr ⟨'.', part, rfl, mem_kstar_oneOf.mpr partDigits, rfl⟩
        exact .inl (.inr ⟨whole, mem_digitRuns.mpr ⟨empty, wholeDigits⟩, _, fraction, rfl⟩)

end Membership

section Tests

variable {cs : List Char}

theorem not_isSign_of_isDecimalDigit {c : Char} (digit : isDecimalDigit c) : isSign c = false := by
  cases sign : isSign c with
  | false => rfl
  | true => obtain rfl | rfl := isSign_iff.mp sign <;> exact absurd digit (by decide)

theorem digitRuns_unsigned (c : Char) (rest : List Char)
    (mem : c :: rest ∈ digitRuns isDecimalDigit) : isSign c = false :=
  not_isSign_of_isDecimalDigit ((mem_digitRuns.mp mem).2 c (by simp))

theorem isInteger_iff : isInteger cs ↔ cs ∈ integers isDecimalDigit := by
  rw [integers, mem_signed_iff digitRuns_unsigned, mem_digitRuns]
  simp [isInteger]

theorem mem_exponents {digit : Char → Bool} : cs ∈ exponents digit ↔
    cs = [] ∨ ∃ c rest, isExponentMark c ∧ rest ∈ integers digit ∧ cs = c :: rest := by
  rw [exponents, Language.mem_add, Language.mem_one, mem_oneOf_mul]

theorem isExponent_iff : isExponent cs ↔ cs ∈ exponents isDecimalDigit := by
  rw [mem_exponents]
  cases cs with
  | nil => simp [isExponent]
  | cons c rest =>
      have own : isExponent (c :: rest) = (isExponentMark c && isInteger rest) := rfl
      simp [own, isInteger_iff]

theorem stops_of_mem_exponents (mem : cs ∈ exponents isDecimalDigit) :
    Stops isDecimalDigit cs := by
  obtain rfl | ⟨c, rest, mark, -, rfl⟩ := mem_exponents.mp mem
  · simp [Stops]
  · apply stops_cons
    obtain rfl | rfl := isExponentMark_iff.mp mark <;> decide

theorem ne_point_of_mem_exponents (mem : cs ∈ exponents isDecimalDigit) (rest : List Char) :
    cs ≠ '.' :: rest := by
  rintro rfl
  have mark := isExponent_iff.mpr mem
  simp [isExponent] at mark

theorem unsigned_of_mem_numbers (c : Char) (rest : List Char)
    (mem : c :: rest ∈ mantissas isDecimalDigit * exponents isDecimalDigit) :
    isSign c = false := by
  obtain ⟨mantissa, own, exponent, -, eq⟩ := Language.mem_mul.mp mem
  obtain run | ⟨whole, part, -, digits, -, rfl⟩ := mem_mantissas.mp own
  · obtain ⟨nonempty, -⟩ := mem_digitRuns.mp run
    obtain ⟨d, ds, rfl⟩ := List.exists_cons_of_ne_nil nonempty
    rw [← (List.cons.inj eq).1]
    exact digitRuns_unsigned d ds run
  · cases whole with
    | nil =>
        rw [← (List.cons.inj eq).1]
        decide
    | cons d ds =>
        rw [← (List.cons.inj eq).1]
        exact not_isSign_of_isDecimalDigit (digits d (by simp))

theorem mem_of_isNumber (number : isNumber cs) :
    skipSign cs ∈ mantissas isDecimalDigit * exponents isDecimalDigit := by
  rw [isNumber] at number
  generalize skipSign cs = body at number ⊢
  have taken : ∀ {ds}, ∀ c ∈ List.takeWhile isDecimalDigit ds, isDecimalDigit c :=
    fun c mem => List.mem_takeWhile_imp mem
  have parts := List.takeWhile_append_dropWhile (p := isDecimalDigit) (l := body)
  rw [Language.mem_mul]
  split at number
  · next rest after =>
      simp only [Bool.and_eq_true, Bool.or_eq_true, Bool.not_eq_true',
        List.isEmpty_eq_false_iff] at number
      refine ⟨_, mem_mantissas.mpr (.inr ⟨_, _, number.1, taken, taken, rfl⟩), _,
        isExponent_iff.mp number.2, ?_⟩
      rw [List.append_assoc, List.cons_append, List.takeWhile_append_dropWhile, ← after, parts]
  · next rest _ =>
      simp only [Bool.and_eq_true, Bool.not_eq_true', List.isEmpty_eq_false_iff] at number
      exact ⟨_, mem_mantissas.mpr (.inl (mem_digitRuns.mpr ⟨number.1, taken⟩)), _,
        isExponent_iff.mp number.2, parts⟩

/-- The digits before and after the point are all taken, since neither a point nor what may follow a
mantissa begins with a digit. -/
theorem isNumber_of_mem
    (mem : skipSign cs ∈ mantissas isDecimalDigit * exponents isDecimalDigit) : isNumber cs := by
  rw [isNumber]
  generalize skipSign cs = body at mem ⊢
  obtain ⟨mantissa, own, exponent, mark, rfl⟩ := Language.mem_mul.mp mem
  have stops := stops_of_mem_exponents mark
  have exponential := isExponent_iff.mpr mark
  obtain run | ⟨whole, part, some, wholeDigits, partDigits, rfl⟩ := mem_mantissas.mp own
  · obtain ⟨nonempty, digits⟩ := mem_digitRuns.mp run
    rw [takeWhile_of_stops digits stops, dropWhile_of_stops digits stops]
    split
    · next rest => exact absurd rfl (ne_point_of_mem_exponents mark rest)
    · simp [nonempty, exponential]
  · have point : Stops isDecimalDigit ('.' :: (part ++ exponent)) := stops_cons (by decide) _
    rw [List.append_assoc, List.cons_append, takeWhile_of_stops wholeDigits point,
      dropWhile_of_stops wholeDigits point]
    simp only [takeWhile_of_stops partDigits stops, dropWhile_of_stops partDigits stops,
      exponential, Bool.and_true, Bool.or_eq_true, Bool.not_eq_true', List.isEmpty_eq_false_iff]
    exact some

theorem isNumber_iff : isNumber cs ↔ cs ∈ numbers isDecimalDigit := by
  rw [numbers, mem_signed_iff unsigned_of_mem_numbers]
  exact ⟨mem_of_isNumber, isNumber_of_mem⟩

end Tests

section Alphabets

/-- The words of the one language are those of the other that keep to the alphabet. -/
def Restricts (alphabet : Char → Bool) (restricted whole : Language Char) : Prop :=
  ∀ cs, cs ∈ restricted ↔ cs ∈ whole ∧ ∀ c ∈ cs, alphabet c

variable {alphabet : Char → Bool} {L L' M M' : Language Char}

theorem restricts_one : Restricts alphabet 1 1 := by
  intro cs
  rw [Language.mem_one]
  constructor
  · rintro rfl
    simp
  · exact And.left

theorem restricts_oneOf {p q : Char → Bool} (same : ∀ c, p c ↔ q c ∧ alphabet c) :
    Restricts alphabet (oneOf p) (oneOf q) := by
  intro cs
  constructor
  · rintro ⟨c, own, rfl⟩
    obtain ⟨whole, inside⟩ := (same c).mp own
    exact ⟨⟨c, whole, rfl⟩, List.forall_mem_singleton.mpr inside⟩
  · rintro ⟨⟨c, whole, rfl⟩, inside⟩
    exact ⟨c, (same c).mpr ⟨whole, inside c (List.mem_singleton_self c)⟩, rfl⟩

theorem Restricts.add (left : Restricts alphabet L' L) (right : Restricts alphabet M' M) :
    Restricts alphabet (L' + M') (L + M) := by
  intro cs
  rw [Language.mem_add, Language.mem_add, left cs, right cs, or_and_right]

theorem Restricts.mul (left : Restricts alphabet L' L) (right : Restricts alphabet M' M) :
    Restricts alphabet (L' * M') (L * M) := by
  intro cs
  rw [Language.mem_mul, Language.mem_mul]
  constructor
  · rintro ⟨a, ha, b, hb, rfl⟩
    obtain ⟨ha, inA⟩ := (left a).mp ha
    obtain ⟨hb, inB⟩ := (right b).mp hb
    exact ⟨⟨a, ha, b, hb, rfl⟩, List.forall_mem_append.mpr ⟨inA, inB⟩⟩
  · rintro ⟨⟨a, ha, b, hb, rfl⟩, inside⟩
    obtain ⟨inA, inB⟩ := List.forall_mem_append.mp inside
    exact ⟨a, (left a).mpr ⟨ha, inA⟩, b, (right b).mpr ⟨hb, inB⟩, rfl⟩

theorem Restricts.kstar (each : Restricts alphabet L' L) : Restricts alphabet L'∗ L∗ := by
  intro cs
  rw [Language.mem_kstar, Language.mem_kstar]
  constructor
  · rintro ⟨words, rfl, own⟩
    refine ⟨⟨words, rfl, fun word mem => ((each word).mp (own word mem)).1⟩, ?_⟩
    intro c mem
    obtain ⟨word, hword, hc⟩ := List.mem_flatten.mp mem
    exact ((each word).mp (own word hword)).2 c hc
  · rintro ⟨⟨words, rfl, own⟩, inside⟩
    refine ⟨words, rfl, fun word mem => (each word).mpr ⟨own word mem, ?_⟩⟩
    exact fun c hc => inside c (List.mem_flatten.mpr ⟨word, mem, hc⟩)

end Alphabets

section Ascii

def isAscii (c : Char) : Bool := c.toNat < 128

theorem isDigit_iff (c : Char) : c.isDigit ↔ isDecimalDigit c ∧ isAscii c := by
  have own : c.isDigit ↔ 48 ≤ c.toNat ∧ c.toNat ≤ 57 := by
    simp [Char.isDigit, UInt32.le_iff_toNat_le]
  -- The first range holds the ASCII digits; the others lie beyond ASCII.
  have others : ∀ r ∈ decimalDigitRanges.tail, 128 ≤ r.1 := by decide
  have first : decimalDigitRanges = (48, 57) :: decimalDigitRanges.tail := rfl
  rw [own, isDecimalDigit, isAscii, CodeRanges.covers, first, List.any_cons, Bool.or_eq_true,
    List.any_eq_true]
  simp only [Bool.and_eq_true, decide_eq_true_eq]
  constructor
  · intro inside
    exact ⟨.inl inside, by omega⟩
  · rintro ⟨inside | ⟨r, mem, inside⟩, ascii⟩
    · exact inside
    · have := others r mem
      omega

theorem restricts_oneOf_ascii {p : Char → Bool} (ascii : ∀ c, p c → isAscii c) :
    Restricts isAscii (oneOf p) (oneOf p) :=
  restricts_oneOf fun c => ⟨fun own => ⟨own, ascii c own⟩, And.left⟩

theorem restricts_sign : Restricts isAscii (1 + oneOf isSign) (1 + oneOf isSign) := by
  apply restricts_one.add
  apply restricts_oneOf_ascii
  intro c sign
  obtain rfl | rfl := isSign_iff.mp sign <;> decide

theorem restricts_point : Restricts isAscii (oneOf isPoint) (oneOf isPoint) := by
  apply restricts_oneOf_ascii
  intro c point
  rw [show c = '.' from beq_iff_eq.mp point]
  decide

theorem restricts_exponentMark :
    Restricts isAscii (oneOf isExponentMark) (oneOf isExponentMark) := by
  apply restricts_oneOf_ascii
  intro c mark
  obtain rfl | rfl := isExponentMark_iff.mp mark <;> decide

theorem restricts_digit : Restricts isAscii (oneOf Char.isDigit) (oneOf isDecimalDigit) :=
  restricts_oneOf isDigit_iff

theorem restricts_digitRuns :
    Restricts isAscii (digitRuns Char.isDigit) (digitRuns isDecimalDigit) :=
  restricts_digit.mul restricts_digit.kstar

theorem restricts_integers :
    Restricts isAscii (integers Char.isDigit) (integers isDecimalDigit) :=
  restricts_sign.mul restricts_digitRuns

theorem restricts_mantissas :
    Restricts isAscii (mantissas Char.isDigit) (mantissas isDecimalDigit) := by
  apply Restricts.add
  · exact restricts_digitRuns.mul (restricts_one.add (restricts_point.mul restricts_digit.kstar))
  · exact restricts_point.mul restricts_digitRuns

theorem restricts_numbers :
    Restricts isAscii (numbers Char.isDigit) (numbers isDecimalDigit) := by
  apply restricts_sign.mul
  apply restricts_mantissas.mul
  exact restricts_one.add (restricts_exponentMark.mul restricts_integers)

end Ascii

end Text
end FieldQuery
