import FieldQuery.Text.Lowercase

/-!
What lowercasing leaves. A character that lowercasing yields is its own lowercase, since no case run
leads into another one, and so a text in lower case stays as it is. The lowercase of a character
that makes up words does so too, with one exception: the dotted capital I becomes a letter and a
combining dot, and the dot makes up no word.
-/

namespace FieldQuery
namespace Text

namespace CaseRun

def lower (run : CaseRun) (c : Char) : Char := Char.ofNat (c.toNat + run.shift).toNat

def lowerFirst (run : CaseRun) : Nat := (run.first + run.shift).toNat

def lowerLast (run : CaseRun) : Nat := (run.last + run.shift).toNat

/-- The range covers every lowercase of the run. -/
def landsIn (run : CaseRun) (range : Nat × Nat) : Bool :=
  Nat.ble range.1 run.lowerFirst && Nat.ble run.lowerLast range.2

/-- No lowercase of the run is covered by the other one. Either the two lie apart, or both take
every second code point and are out of step, as capital and small letters are that alternate. -/
def avoids (run other : CaseRun) : Bool :=
  Nat.blt run.lowerLast other.first || Nat.blt other.last run.lowerFirst ||
    (run.first == run.last || run.stride == 2) && other.stride == 2 &&
      (run.first + run.shift - other.first) % 2 == 1

theorem covers_iff {run : CaseRun} {c : Char} :
    run.covers c ↔
      run.first ≤ c.toNat ∧ c.toNat ≤ run.last ∧ (c.toNat - run.first) % run.stride = 0 := by
  simp [covers, and_assoc]

end CaseRun

theorem CodeRanges.covers_iff {ranges : CodeRanges} {c : Char} :
    ranges.covers c ↔ ∃ range ∈ ranges, range.1 ≤ c.toNat ∧ c.toNat ≤ range.2 := by
  simp [CodeRanges.covers]

section Tables

theorem caseRuns_land :
    (caseRuns.all fun run => alphanumericRanges.any fun range => run.landsIn range) = true := by
  decide +kernel

theorem caseRuns_avoid :
    (caseRuns.all fun run => caseRuns.all fun other => run.avoids other) = true := by
  decide +kernel

/-- The dotted capital I is no lowercase either. -/
theorem caseRuns_undotted :
    ∀ run ∈ caseRuns, run.lowerLast < 0x0130 ∨ 0x0130 < run.lowerFirst := by
  decide +kernel

theorem alphanumericRanges_valid :
    ∀ range ∈ alphanumericRanges, 0 < range.1 ∧
      (range.2 < 0xD800 ∨ 0xDFFF < range.1 ∧ range.2 < 0x110000) := by
  decide +kernel

end Tables

section Runs

variable {run : CaseRun} {c : Char}

theorem exists_range (mem : run ∈ caseRuns) :
    ∃ range ∈ alphanumericRanges, range.1 ≤ run.lowerFirst ∧ run.lowerLast ≤ range.2 := by
  have lands := List.all_eq_true.mp caseRuns_land run mem
  obtain ⟨range, listed, lands⟩ := List.any_eq_true.mp lands
  exact ⟨range, listed, by simpa [CaseRun.landsIn] using lands⟩

theorem le_lower_le (covered : run.covers c) :
    run.lowerFirst ≤ (c.toNat + run.shift).toNat ∧
      (c.toNat + run.shift).toNat ≤ run.lowerLast := by
  obtain ⟨above, below, -⟩ := CaseRun.covers_iff.mp covered
  simp only [CaseRun.lowerFirst, CaseRun.lowerLast]
  omega

/-- The lowercase is a character, so that nothing is lost in the step from its code point to it. -/
theorem toNat_lower (mem : run ∈ caseRuns) (covered : run.covers c) :
    ((run.lower c).toNat : Int) = c.toNat + run.shift := by
  obtain ⟨range, listed, above, below⟩ := exists_range mem
  obtain ⟨positive, valid⟩ := alphanumericRanges_valid range listed
  have between := le_lower_le covered
  have isValid : (c.toNat + run.shift).toNat.isValidChar := by
    rcases valid with low | high
    · left; omega
    · right; omega
  have code : (run.lower c).toNat = (c.toNat + run.shift).toNat := by
    rw [CaseRun.lower, Char.ofNat, dif_pos isValid]
    rfl
  omega

theorem isAlphanumeric_lower (mem : run ∈ caseRuns) (covered : run.covers c) :
    isAlphanumeric (run.lower c) := by
  obtain ⟨range, listed, above, below⟩ := exists_range mem
  have between := le_lower_le covered
  have code := toNat_lower mem covered
  exact CodeRanges.covers_iff.mpr ⟨range, listed, by omega, by omega⟩

theorem lower_ne_dotted (mem : run ∈ caseRuns) (covered : run.covers c) :
    run.lower c ≠ '\u0130' := by
  intro dotted
  have code := toNat_lower mem covered
  have between := le_lower_le covered
  have apart := caseRuns_undotted run mem
  rw [dotted] at code
  have : ('\u0130' : Char).toNat = 0x0130 := rfl
  omega

theorem not_covers_lower (mem : run ∈ caseRuns) (covered : run.covers c) {other : CaseRun}
    (listed : other ∈ caseRuns) : ¬ other.covers (run.lower c) := by
  intro again
  have code := toNat_lower mem covered
  have between := le_lower_le covered
  obtain ⟨above, below, step⟩ := CaseRun.covers_iff.mp covered
  obtain ⟨above', below', step'⟩ := CaseRun.covers_iff.mp again
  have avoids := List.all_eq_true.mp (List.all_eq_true.mp caseRuns_avoid run mem) other listed
  simp only [CaseRun.avoids, Bool.or_eq_true, Bool.and_eq_true, Nat.blt_eq, beq_iff_eq] at avoids
  -- out of step, the lowercase is an odd number of code points away from where the other run begins
  obtain (front | behind) | ⟨⟨single | alternating, alternating'⟩, odd⟩ := avoids
  · omega
  · omega
  · rw [alternating'] at step'
    omega
  · rw [alternating] at step
    rw [alternating'] at step'
    omega

end Runs

section Characters

theorem lowercaseChar_cases (c : Char) :
    (c = '\u0130' ∧ lowercaseChar c = ['i', '\u0307']) ∨
    (∃ run ∈ caseRuns, run.covers c ∧ lowercaseChar c = [run.lower c]) ∨
    lowercaseChar c = [c] := by
  by_cases dotted : c = '\u0130'
  · exact .inl ⟨dotted, by rw [lowercaseChar, if_pos dotted]⟩
  · right
    rw [lowercaseChar, if_neg dotted]
    cases found : caseRuns.find? (·.covers c) with
    | none => exact .inr rfl
    | some run =>
        have covered := List.find?_some found
        exact .inl ⟨run, List.mem_of_find?_eq_some found, covered, rfl⟩

/-- The lowercase of a character is its own lowercase. -/
theorem lowercaseChar_of_mem {c d : Char} (mem : d ∈ lowercaseChar c) :
    lowercaseChar d = [d] := by
  obtain ⟨-, lower⟩ | ⟨run, listed, covered, lower⟩ | lower := lowercaseChar_cases c
  · simp only [lower, List.mem_cons, List.not_mem_nil, or_false] at mem
    obtain rfl | rfl := mem
    · decide
    · decide
  · rw [lower, List.mem_singleton] at mem
    subst mem
    have none : caseRuns.find? (·.covers (run.lower c)) = none := by
      rw [List.find?_eq_none]
      exact fun other among => not_covers_lower listed covered among
    rw [lowercaseChar, if_neg (lower_ne_dotted listed covered), none]
  · rw [lower, List.mem_singleton] at mem
    rw [mem, lower]

theorem isAlphanumeric_of_mem_lowercaseChar {c d : Char} (alphanumeric : isAlphanumeric c)
    (undotted : c ≠ '\u0130') (mem : d ∈ lowercaseChar c) : isAlphanumeric d := by
  obtain ⟨dotted, -⟩ | ⟨run, listed, covered, lower⟩ | lower := lowercaseChar_cases c
  · exact absurd dotted undotted
  · rw [lower, List.mem_singleton] at mem
    rw [mem]
    exact isAlphanumeric_lower listed covered
  · rw [lower, List.mem_singleton] at mem
    rwa [mem]

end Characters

section Words

variable {cs : List Char}

/-- A small sigma at the end of a word is the one character that is not looked up on its own. -/
theorem exists_of_mem_lowercaseAfter {before : List Char} {d : Char}
    (mem : d ∈ lowercaseAfter before cs) :
    ∃ c ∈ cs, d ∈ lowercaseChar c ∨ c = 'Σ' ∧ d = 'ς' := by
  induction cs generalizing before with
  | nil => cases mem
  | cons c after ih =>
      rw [lowercaseAfter, List.mem_append] at mem
      rcases mem with own | later
      · refine ⟨c, List.mem_cons_self .., ?_⟩
        split at own
        · next sigma =>
            rw [List.mem_singleton] at own
            split at own
            · exact .inr ⟨sigma, own⟩
            · subst sigma own
              exact .inl (by decide)
        · exact .inl own
      · obtain ⟨source, among, yields⟩ := ih later
        exact ⟨source, List.mem_cons_of_mem _ among, yields⟩

theorem mem_lowercaseAfter {before : List Char} {c d : Char} (mem : c ∈ cs) (other : c ≠ 'Σ')
    (yields : d ∈ lowercaseChar c) : d ∈ lowercaseAfter before cs := by
  induction cs generalizing before with
  | nil => cases mem
  | cons first after ih =>
      rw [lowercaseAfter, List.mem_append]
      obtain rfl | later := List.mem_cons.mp mem
      · left
        rwa [if_neg other]
      · exact .inr (ih later)

/-- Where every character is its own lowercase, no neighbour matters. -/
theorem lowercaseAfter_eq_self (lower : ∀ c ∈ cs, lowercaseChar c = [c]) (before : List Char) :
    lowercaseAfter before cs = cs := by
  induction cs generalizing before with
  | nil => rfl
  | cons c after ih =>
      obtain ⟨own, later⟩ := List.forall_mem_cons.mp lower
      have other : c ≠ 'Σ' := by
        rintro rfl
        exact absurd own (by decide)
      rw [lowercaseAfter, if_neg other, own, ih later]
      rfl

theorem lowercaseChar_of_mem_lowercase {d : Char} (mem : d ∈ lowercase cs) :
    lowercaseChar d = [d] := by
  obtain ⟨c, -, yields | ⟨-, rfl⟩⟩ := exists_of_mem_lowercaseAfter mem
  · exact lowercaseChar_of_mem yields
  · decide

theorem lowercase_lowercase (cs : List Char) : lowercase (lowercase cs) = lowercase cs :=
  lowercaseAfter_eq_self (fun _ mem => lowercaseChar_of_mem_lowercase mem) []

theorem lowercase_ne_nil (nonempty : cs ≠ []) : lowercase cs ≠ [] := by
  cases cs with
  | nil => exact absurd rfl nonempty
  | cons c after =>
      rw [lowercase, lowercaseAfter]
      apply List.append_ne_nil_of_left_ne_nil
      split
      · exact List.cons_ne_nil _ _
      · obtain ⟨-, lower⟩ | ⟨run, -, -, lower⟩ | lower := lowercaseChar_cases c <;> simp [lower]

/-- Only the dotted capital I puts something else into a word, and that is a combining dot. -/
theorem isAlphanumeric_or_dot_of_mem_lowercase (word : ∀ c ∈ cs, isAlphanumeric c) {d : Char}
    (mem : d ∈ lowercase cs) : isAlphanumeric d ∨ d = '\u0307' ∧ '\u0130' ∈ cs := by
  obtain ⟨c, among, yields | ⟨-, rfl⟩⟩ := exists_of_mem_lowercaseAfter mem
  · by_cases dotted : c = '\u0130'
    · subst dotted
      have pair : lowercaseChar '\u0130' = ['i', '\u0307'] := rfl
      simp only [pair, List.mem_cons, List.not_mem_nil, or_false] at yields
      obtain rfl | rfl := yields
      · exact .inl (by decide)
      · exact .inr ⟨rfl, among⟩
    · exact .inl (isAlphanumeric_of_mem_lowercaseChar (word c among) dotted yields)
  · exact .inl (by decide)

theorem dot_mem_lowercase (mem : '\u0130' ∈ cs) : '\u0307' ∈ lowercase cs :=
  mem_lowercaseAfter mem (by decide) (by decide)

end Words

end Text
end FieldQuery
