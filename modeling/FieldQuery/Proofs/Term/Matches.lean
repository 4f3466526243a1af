import FieldQuery.Proofs.Search.Meaning
import FieldQuery.Proofs.Term.Tokens

/-!
What an exact match means. Every value of a term has its tokens or is refused, and a value without
tokens is passed over. Of the values that are left the term matches any: its query is satisfied
where the phrase of one of them is, whether it is a single phrase or a list of alternatives, and
there is no query where none is left. So neither the order of the values matters nor how often one
is given. The first value that is refused decides that the term is.
-/

namespace FieldQuery

section Results

variable {α β ε : Type} {f : α → Except ε β}

theorem exists_mapM {values : List α} (each : ∀ value ∈ values, ∃ b, f value = .ok b) :
    ∃ bs, values.mapM f = .ok bs := by
  cases read : values.mapM f with
  | ok bs => exact ⟨bs, rfl⟩
  | error error =>
      obtain ⟨before, value, after, rfl, -, failed⟩ := mapM_eq_error read
      obtain ⟨b, own⟩ := each value (by simp)
      rw [own] at failed
      cases failed

theorem mem_mapM_iff {values : List α} {bs : List β} (read : values.mapM f = .ok bs) {b : β} :
    b ∈ bs ↔ ∃ value ∈ values, f value = .ok b := by
  induction values generalizing bs with
  | nil =>
      cases read
      simp
  | cons value values ih =>
      rw [List.mapM_cons] at read
      cases first : f value with
      | error error =>
          rw [first] at read
          cases read
      | ok own =>
          cases others : values.mapM f with
          | error error =>
              rw [first, others] at read
              cases read
          | ok later =>
              rw [first, others] at read
              cases read
              simp [ih others, first, eq_comm]

theorem mapM_eq_error_of_first {before after : List α} {value : α} {error : ε}
    (good : ∀ v ∈ before, ∃ b, f v = .ok b) (bad : f value = .error error) :
    (before ++ value :: after).mapM f = .error error := by
  obtain ⟨bs, read⟩ := exists_mapM good
  rw [List.mapM_append, read, List.mapM_cons, bad]
  rfl

end Results

namespace Search

section Alternatives

variable {field : String} {tokens : List (List String)}

/-- The phrases of the values that are left. -/
def phrases (field : String) (tokens : List (List String)) : List Query :=
  (tokens.filter fun ts => !ts.isEmpty).map (Query.phrase field)

theorem phrases_eq_nil_iff : phrases field tokens = [] ↔ ∀ ts ∈ tokens, ts = [] := by
  simp [phrases]

theorem any_satisfies_phrases_iff (document : Document) :
    (phrases field tokens).any document.satisfies = true ↔
      ∃ ts ∈ tokens, ts ≠ [] ∧ document.phrase field ts = true := by
  simp [phrases, Document.satisfies]

theorem matchAny?_eq (field : String) (tokens : List (List String)) :
    matchAny? field tokens =
      match phrases field tokens with
      | [] => none
      | [query] => some query
      | queries => some (.anyOf queries) := rfl

theorem matchAny?_eq_none_iff : matchAny? field tokens = none ↔ ∀ ts ∈ tokens, ts = [] := by
  have left := @phrases_eq_nil_iff field tokens
  rw [← left, matchAny?_eq]
  split
  · next none => simp [none]
  · next only one => simp [one]
  · next several _ => simpa using several

/-- A single phrase means the same as alternatives of which it is the only one. -/
theorem satisfies_matchAny?_iff {query : Query} (found : matchAny? field tokens = some query)
    (document : Document) :
    document.satisfies query = true ↔
      ∃ ts ∈ tokens, ts ≠ [] ∧ document.phrase field ts = true := by
  rw [← any_satisfies_phrases_iff]
  rw [matchAny?_eq] at found
  split at found
  · cases found
  · next only one =>
      cases found
      simp [one]
  · cases found
    rw [satisfies_anyOf]

/-- Only which tokens there are matters, and empty ones do not. -/
theorem map_satisfies_matchAny?_congr {others : List (List String)}
    (same : ∀ ts, ts ≠ [] → (ts ∈ others ↔ ts ∈ tokens)) (document : Document) :
    (matchAny? field others).map document.satisfies =
      (matchAny? field tokens).map document.satisfies := by
  have survivors : ∀ P : List String → Prop,
      (∃ ts ∈ others, ts ≠ [] ∧ P ts) ↔ ∃ ts ∈ tokens, ts ≠ [] ∧ P ts := by
    intro P
    apply exists_congr
    intro ts
    constructor
    · rintro ⟨mem, nonempty, holds⟩
      exact ⟨(same ts nonempty).mp mem, nonempty, holds⟩
    · rintro ⟨mem, nonempty, holds⟩
      exact ⟨(same ts nonempty).mpr mem, nonempty, holds⟩
  have none : matchAny? field others = none ↔ matchAny? field tokens = none := by
    rw [matchAny?_eq_none_iff, matchAny?_eq_none_iff]
    simpa using not_congr (survivors fun _ => True)
  cases left : matchAny? field others with
  | none => rw [none.mp left]
  | some query =>
      cases right : matchAny? field tokens with
      | none =>
          rw [none.mpr right] at left
          cases left
      | some other =>
          rw [Option.map_some, Option.map_some, Option.some.injEq, Bool.eq_iff_iff,
            satisfies_matchAny?_iff left, satisfies_matchAny?_iff right]
          exact survivors _

end Alternatives

section Terms

variable {pattern : String} {term : ResolvedTerm} {operator : Operator}

/-- Analysis leaves nothing of the value. -/
def PassedOver (descriptor : FieldDescriptor) (value : String) : Prop :=
  descriptor.analyzed = true ∧ analyze value = []

theorem PassedOver.eq_nil {field value : String} {descriptor : FieldDescriptor}
    {tokens : List String} (passed : PassedOver descriptor value)
    (matched : MatchedBy pattern field descriptor value tokens) : tokens = [] := by
  obtain ⟨analyzed, none⟩ := passed
  cases matched with
  | analyzed _ => exact none
  | indexed unanalyzed _ _ | verbatim unanalyzed _ =>
      rw [analyzed] at unanalyzed
      cases unanalyzed

theorem passedOver_of_matchedBy_nil {field value : String} {descriptor : FieldDescriptor}
    (matched : MatchedBy pattern field descriptor value []) : PassedOver descriptor value := by
  generalize none : ([] : List String) = tokens at matched
  cases matched with
  | analyzed analyzed => exact ⟨analyzed, none.symm⟩
  | indexed | verbatim => cases none

theorem PassedOver.not_refused {field value : String} {descriptor : FieldDescriptor}
    (passed : PassedOver descriptor value) (fault : ValueFault) :
    ¬ Refused pattern field descriptor value fault := by
  intro refused
  have unanalyzed := refused.unanalyzed
  rw [passed.1] at unanalyzed
  cases unanalyzed

/-- All values of the term are of the type of its field, where this matters. -/
def Valid (pattern : String) (term : ResolvedTerm) : Prop :=
  ∀ value ∈ term.values, ∀ fault, ¬ Refused pattern term.field term.descriptor value fault

theorem exists_matchTokens (writable : Calendar.isWritable pattern) {value : String}
    (valid : ∀ fault, ¬ Refused pattern term.field term.descriptor value fault) :
    ∃ ts, matchTokens pattern term value = .ok ts := by
  obtain ⟨ts, matched⟩ | ⟨fault, refused⟩ :=
    matchedBy_or_refused writable term.field term.descriptor value
  · exact ⟨ts, matched.matchTokens_eq⟩
  · exact absurd refused (valid fault)

/-- The lists of tokens are those of the values. -/
def TokensOf (pattern : String) (term : ResolvedTerm) (tokens : List (List String)) : Prop :=
  ∀ ts, ts ∈ tokens ↔
    ∃ value ∈ term.values, MatchedBy pattern term.field term.descriptor value ts

theorem exists_tokensOf (writable : Calendar.isWritable pattern) (counted : term.Counted)
    (equality : operator.isOrdering = false) (valid : Valid pattern term) :
    ∃ tokens, TokensOf pattern term tokens ∧
      Query.ofTerm? pattern term operator = .ok (matchAny? term.field tokens) := by
  obtain ⟨tokens, read⟩ := exists_mapM fun value mem =>
    exists_matchTokens writable (valid value mem)
  refine ⟨tokens, ?_, ?_⟩
  · intro ts
    simp only [mem_mapM_iff read, matchTokens_eq_ok_iff writable]
  · rw [ofTerm?_of_equality counted equality, read]
    rfl

theorem TokensOf.exists_iff {tokens : List (List String)} (tokensOf : TokensOf pattern term tokens)
    (holds : List String → Prop) :
    (∃ ts ∈ tokens, holds ts) ↔
      ∃ value ∈ term.values, ∃ ts,
        MatchedBy pattern term.field term.descriptor value ts ∧ holds ts := by
  constructor
  · rintro ⟨ts, mem, own⟩
    obtain ⟨value, given, matched⟩ := (tokensOf ts).mp mem
    exact ⟨value, given, ts, matched, own⟩
  · rintro ⟨value, given, ts, matched, own⟩
    exact ⟨ts, (tokensOf ts).mpr ⟨value, given, matched⟩, own⟩

theorem TokensOf.all_nil_iff (writable : Calendar.isWritable pattern) (valid : Valid pattern term)
    {tokens : List (List String)} (tokensOf : TokensOf pattern term tokens) :
    (∀ ts ∈ tokens, ts = []) ↔ ∀ value ∈ term.values, PassedOver term.descriptor value := by
  constructor
  · intro empty value mem
    obtain ⟨ts, matched⟩ | ⟨fault, refused⟩ :=
      matchedBy_or_refused writable term.field term.descriptor value
    · have none := empty ts ((tokensOf ts).mpr ⟨value, mem, matched⟩)
      rw [none] at matched
      exact passedOver_of_matchedBy_nil matched
    · exact absurd refused (valid value mem fault)
  · intro passed ts mem
    obtain ⟨value, given, matched⟩ := (tokensOf ts).mp mem
    exact (passed value given).eq_nil matched

/-- Every value is among the others, or nothing is left of it. -/
def Covered (descriptor : FieldDescriptor) (values others : List String) : Prop :=
  ∀ value ∈ values, value ∈ others ∨ PassedOver descriptor value

theorem Covered.exists_matchedBy {field : String} {descriptor : FieldDescriptor}
    {values others ts : List String} (covered : Covered descriptor values others)
    (nonempty : ts ≠ []) (some : ∃ value ∈ values, MatchedBy pattern field descriptor value ts) :
    ∃ value ∈ others, MatchedBy pattern field descriptor value ts := by
  obtain ⟨value, mem, matched⟩ := some
  obtain given | passed := covered value mem
  · exact ⟨value, given, matched⟩
  · exact absurd (passed.eq_nil matched) nonempty

theorem Covered.valid {values : List String}
    (covered : Covered term.descriptor values term.values) (valid : Valid pattern term) :
    Valid pattern { term with values } := by
  intro value mem fault
  obtain given | passed := covered value mem
  · exact valid value given fault
  · exact passed.not_refused fault

/-- A term whose values have the right type matches any of them that is not passed over, and
vanishes if there is none; so another list of values that differs in order, in repetitions or in
values that are passed over finds the same. The first value of the wrong type makes the term fail.
-/
theorem exact_match_means_any (writable : Calendar.isWritable pattern) (counted : term.Counted)
    (equality : operator = .equal ∨ operator = .notEqual) :
    (Valid pattern term →
      ∃ found, Query.ofTerm? pattern term operator = .ok found ∧
        (found = none ↔ ∀ value ∈ term.values, PassedOver term.descriptor value) ∧
        (∀ query, found = some query → ∀ document : Document,
          document.satisfies query = true ↔
            ∃ value ∈ term.values, ∃ tokens,
              MatchedBy pattern term.field term.descriptor value tokens ∧ tokens ≠ [] ∧
                document.phrase term.field tokens = true) ∧
        ∀ values, ResolvedTerm.Counted { term with values } →
          Covered term.descriptor values term.values →
          Covered term.descriptor term.values values →
          ∃ other, Query.ofTerm? pattern { term with values } operator = .ok other ∧
            ∀ document : Document,
              other.map document.satisfies = found.map document.satisfies) ∧
    ∀ before value after fault, term.values = before ++ value :: after →
      (∀ v ∈ before, ∀ own, ¬ Refused pattern term.field term.descriptor v own) →
      Refused pattern term.field term.descriptor value fault →
      Query.ofTerm? pattern term operator = .error (.invalidValue term.field value fault) := by
  rw [← isOrdering_eq_false_iff] at equality
  constructor
  · intro valid
    obtain ⟨tokens, tokensOf, built⟩ := exists_tokensOf writable counted equality valid
    refine ⟨_, built, ?_, ?_, ?_⟩
    · rw [matchAny?_eq_none_iff, tokensOf.all_nil_iff writable valid]
    · intro query found document
      rw [satisfies_matchAny?_iff found, tokensOf.exists_iff]
    · intro values fits fewer more
      obtain ⟨others, othersOf, otherBuilt⟩ :=
        exists_tokensOf writable fits equality (fewer.valid valid)
      refine ⟨_, otherBuilt, map_satisfies_matchAny?_congr ?_⟩
      intro ts nonempty
      rw [tokensOf ts, othersOf ts]
      exact ⟨fewer.exists_matchedBy nonempty, more.exists_matchedBy nonempty⟩
  · intro before value after fault values good bad
    have read := fun v mem => exists_matchTokens writable (good v mem)
    rw [ofTerm?_of_equality counted equality, values,
      mapM_eq_error_of_first read bad.matchTokens_eq]
    rfl

/-- Two of three names are left to be matched; of three days the second is none. -/
theorem exact_match_means_any_names :
    Calendar.isWritable defaultDatePattern = true ∧
      (∃ term query, term = nameTerm ["The Red-Ball", "of the", "Blue"] ∧ term.Counted ∧
        Query.ofTerm? defaultDatePattern term .notEqual = .ok (some query) ∧
        (∀ document : Document, document.satisfies query = true ↔
          ∃ value ∈ term.values, ∃ tokens,
            MatchedBy defaultDatePattern "name" term.descriptor value tokens ∧ tokens ≠ [] ∧
              document.phrase "name" tokens = true) ∧
        PassedOver term.descriptor "of the") ∧
      Query.ofTerm? defaultDatePattern (dayTerm ["2024-01-31", "2024-02-30", "noon"]) .equal =
        .error (.invalidValue "day" "2024-02-30" .notDate) := by
  have writable : Calendar.isWritable defaultDatePattern = true := rfl
  refine ⟨writable, ?_, ?_⟩
  · have counted : (nameTerm ["The Red-Ball", "of the", "Blue"]).Counted := .inr rfl
    obtain ⟨found, built, vanishes, means, -⟩ :=
      (exact_match_means_any writable counted (.inr rfl)).1
        fun _ _ _ refused => nomatch refused.unanalyzed
    cases found with
    | none =>
        have passed := vanishes.mp rfl "Blue" (by decide)
        exact absurd passed.2 (by decide +kernel)
    | some query =>
        exact ⟨_, query, rfl, counted, built, means query rfl, rfl, by decide +kernel⟩
  · refine (exact_match_means_any writable (.inr rfl) (.inl rfl)).2 ["2024-01-31"] "2024-02-30"
      ["noon"] .notDate rfl ?_ ⟨rfl, by decide, by decide⟩
    have taken : Value.indexed defaultDatePattern "day" .date "2024-01-31" =
        .ok "2024-01-31T00:00:00Z" := by decide
    intro day mem fault refused
    rw [List.mem_singleton] at mem
    subst mem
    exact nomatch taken.symm.trans refused.invalid

end Terms

end Search
end FieldQuery
