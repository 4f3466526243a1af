import FieldQuery.Proofs.Pass.UnwritableDate
import FieldQuery.Proofs.Term.SameValues
import FieldQuery.Proofs.Value.Midnight

/-!
What a search makes of the values of a term. The field takes as many of them as it may. By a pattern
that writes dates every value then has tokens to be matched by, or is refused for what it says: this
happens on a field of an ordered type that is not analyzed, and nowhere else.
-/

namespace FieldQuery

/-- By a pattern that writes dates every value has its indexed form or is refused for what it is. -/
theorem Value.indexed_cases {pattern : String} (writable : Calendar.isWritable pattern)
    (field : String) (type : FieldType) (value : String) :
    (∃ bound, indexed pattern field type value = .ok bound) ∨
      ∃ fault, indexed pattern field type value = .error (.invalidValue field value fault) := by
  cases result : indexed pattern field type value with
  | ok bound => exact .inl ⟨bound, rfl⟩
  | error error =>
      right
      obtain rfl | ⟨fault, rfl, -⟩ := indexed_eq_error result
      · have unwritable := (unwritable_indexed_iff pattern field type value).mp ⟨pattern, result⟩
        simp [writable] at unwritable
      · exact ⟨fault, rfl⟩

namespace ResolvedTerm

variable {term : ResolvedTerm}

/-- The field takes as many values as the term has. -/
def Counted (term : ResolvedTerm) : Prop :=
  term.values.length ≤ 1 ∨ term.descriptor.multiValued = true

theorem checkCount_eq_ok_iff : term.checkCount = .ok () ↔ term.Counted := by
  rw [checkCount, Counted, ← Nat.not_lt]
  split
  · next surplus => simpa using surplus
  · next fits => simpa [or_iff_not_imp_left] using fits

theorem checkCount_of_surplus (surplus : ¬ term.Counted) :
    term.checkCount = .error (.multiValueNotAllowed term.field term.values.length) := by
  cases checked : term.checkCount with
  | ok => exact absurd (checkCount_eq_ok_iff.mp checked) surplus
  | error error => rw [(checkCount_eq_error checked).1]; rfl

end ResolvedTerm

namespace Search

/-- The types whose values have an order. -/
def orderedTypes : List FieldType := [.integer, .float, .decimal, .date, .dateTime]

theorem isOrdered_iff {type : FieldType} : type.isOrdered = true ↔ type ∈ orderedTypes := by
  cases type <;> decide

/-- The tokens that a value of a field is matched by. -/
inductive MatchedBy (pattern field : String) (descriptor : FieldDescriptor) (value : String) :
    List String → Prop
  | analyzed (analyzed : descriptor.analyzed = true) :
      MatchedBy pattern field descriptor value (analyze value)
  | indexed (unanalyzed : descriptor.analyzed = false) (ordered : descriptor.type ∈ orderedTypes)
      {token : String} (taken : Value.indexed pattern field descriptor.type value = .ok token) :
      MatchedBy pattern field descriptor value [token]
  | verbatim (unanalyzed : descriptor.analyzed = false)
      (unordered : descriptor.type ∉ orderedTypes) :
      MatchedBy pattern field descriptor value [value]

/-- The value is none of the type of its field, on a field where this matters. -/
structure Refused (pattern field : String) (descriptor : FieldDescriptor) (value : String)
    (fault : ValueFault) : Prop where
  unanalyzed : descriptor.analyzed = false
  ordered : descriptor.type ∈ orderedTypes
  invalid : Value.indexed pattern field descriptor.type value =
    .error (.invalidValue field value fault)

variable {pattern : String} {term : ResolvedTerm} {operator : Operator} {value : String}

theorem matchTokens_of_indexed (unanalyzed : term.descriptor.analyzed = false)
    (ordered : term.type ∈ orderedTypes) :
    matchTokens pattern term value = (do
      let token ← Value.indexed pattern term.field term.type value
      return [token]) := by
  rw [matchTokens, if_neg (by simp [unanalyzed]), if_pos (isOrdered_iff.mpr ordered)]

theorem MatchedBy.matchTokens_eq {tokens : List String}
    (matched : MatchedBy pattern term.field term.descriptor value tokens) :
    matchTokens pattern term value = .ok tokens := by
  cases matched with
  | analyzed analyzed => rw [matchTokens, if_pos analyzed]
  | @indexed unanalyzed ordered token taken =>
      have own : Value.indexed pattern term.field term.type value = .ok token := taken
      rw [matchTokens_of_indexed unanalyzed ordered, own]
      rfl
  | verbatim unanalyzed unordered =>
      have typed : ¬ term.type.isOrdered = true := mt isOrdered_iff.mp unordered
      rw [matchTokens, if_neg (by simp [unanalyzed]), if_neg typed]

theorem Refused.matchTokens_eq {fault : ValueFault}
    (refused : Refused pattern term.field term.descriptor value fault) :
    matchTokens pattern term value = .error (.invalidValue term.field value fault) := by
  have own : Value.indexed pattern term.field term.type value =
      .error (.invalidValue term.field value fault) := refused.invalid
  rw [matchTokens_of_indexed refused.unanalyzed refused.ordered, own]
  rfl

theorem matchedBy_or_refused (writable : Calendar.isWritable pattern) (field : String)
    (descriptor : FieldDescriptor) (value : String) :
    (∃ tokens, MatchedBy pattern field descriptor value tokens) ∨
      ∃ fault, Refused pattern field descriptor value fault := by
  cases analyzed : descriptor.analyzed with
  | true => exact .inl ⟨_, .analyzed analyzed⟩
  | false =>
      by_cases ordered : descriptor.type ∈ orderedTypes
      · obtain ⟨token, taken⟩ | ⟨fault, invalid⟩ :=
          Value.indexed_cases writable field descriptor.type value
        · exact .inl ⟨_, .indexed analyzed ordered taken⟩
        · exact .inr ⟨fault, analyzed, ordered, invalid⟩
      · exact .inl ⟨_, .verbatim analyzed ordered⟩

theorem matchTokens_eq_ok_iff (writable : Calendar.isWritable pattern) {tokens : List String} :
    matchTokens pattern term value = .ok tokens ↔
      MatchedBy pattern term.field term.descriptor value tokens := by
  refine ⟨?_, MatchedBy.matchTokens_eq⟩
  intro read
  obtain ⟨found, matched⟩ | ⟨fault, refused⟩ :=
    matchedBy_or_refused writable term.field term.descriptor value
  · rw [matched.matchTokens_eq] at read
    rwa [← Except.ok.inj read]
  · rw [refused.matchTokens_eq] at read
    cases read

theorem matchTokens_eq_error (writable : Calendar.isWritable pattern) {error : Error}
    (failed : matchTokens pattern term value = .error error) :
    ∃ fault, error = .invalidValue term.field value fault := by
  obtain ⟨found, matched⟩ | ⟨fault, refused⟩ :=
    matchedBy_or_refused writable term.field term.descriptor value
  · rw [matched.matchTokens_eq] at failed
    cases failed
  · rw [refused.matchTokens_eq] at failed
    exact ⟨fault, (Except.error.inj failed).symm⟩

theorem ofTerm?_of_surplus (surplus : ¬ term.Counted) :
    Query.ofTerm? pattern term operator =
      .error (.multiValueNotAllowed term.field term.values.length) := by
  rw [Query.ofTerm?, ResolvedTerm.checkCount_of_surplus surplus]
  rfl

theorem ofTerm?_of_ordering (counted : term.Counted) (ordering : operator.isOrdering = true) :
    Query.ofTerm? pattern term operator = (do
      let range ← Range.ofTerm pattern term operator
      return some (.range range)) := by
  rw [Query.ofTerm?, ResolvedTerm.checkCount_eq_ok_iff.mpr counted, if_pos ordering]
  rfl

theorem ofTerm?_of_equality (counted : term.Counted) (equality : operator.isOrdering = false) :
    Query.ofTerm? pattern term operator = (do
      let tokens ← term.values.mapM (matchTokens pattern term)
      return matchAny? term.field tokens) := by
  rw [Query.ofTerm?, ResolvedTerm.checkCount_eq_ok_iff.mpr counted, if_neg (by simp [equality])]
  rfl

theorem isOrdering_eq_false_iff :
    operator.isOrdering = false ↔ operator = .equal ∨ operator = .notEqual := by
  cases operator <;> decide

end Search
end FieldQuery
