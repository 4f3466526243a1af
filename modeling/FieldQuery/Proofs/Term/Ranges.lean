import FieldQuery.Proofs.Term.Tokens

/-!
Which terms become ranges. An ordering on a term is decided by the first condition that applies: the
number of values that the field takes, then the type of the field, then whether there is exactly one
value, and only then what the value says. So a field without an order is refused whatever its values
are, also where analysis would leave nothing of them, and an ordering never vanishes. Equality and
inequality stay clear of all this, and a range is not to be had from them.
-/

namespace FieldQuery

namespace ResolvedTerm

variable {term : ResolvedTerm}

theorem singleValue_of_none (none : term.values = []) :
    term.singleValue = .error (.missingValue term.field) := by
  simp only [singleValue, none]

theorem singleValue_of_one {value : String} (one : term.values = [value]) :
    term.singleValue = .ok value := by
  simp only [singleValue, one]

theorem singleValue_of_several (several : 1 < term.values.length) :
    term.singleValue = .error (.multiValueNotAllowed term.field term.values.length) := by
  unfold singleValue
  split
  · next one => simp [one] at several
  · next none => simp [none] at several
  · rfl

end ResolvedTerm

namespace Search

open ResolvedTerm (singleValue_of_none singleValue_of_one singleValue_of_several)

variable {pattern : String} {term : ResolvedTerm} {operator : Operator}

/-- The range on one side of a bound, as the ordering says. -/
def Range.oneSided (field : String) (operator : Operator) (bound : String) : Range where
  field := field
  lower := if operator = .less ∨ operator = .lessOrEqual then none else some bound
  upper := if operator = .less ∨ operator = .lessOrEqual then some bound else none
  inclusive := operator = .lessOrEqual ∨ operator = .moreOrEqual

/-- What an ordering makes of a term, where every condition takes for granted that those before it
do not apply. -/
inductive Ranged (pattern : String) (term : ResolvedTerm) (operator : Operator) :
    Except Error (Option Query) → Prop
  | surplus (surplus : ¬ term.Counted) :
      Ranged pattern term operator
        (.error (.multiValueNotAllowed term.field term.values.length))
  | unordered (counted : term.Counted) (unordered : term.type ∉ orderedTypes) :
      Ranged pattern term operator (.error (.unsupportedRange term.field term.type operator))
  | missing (ordered : term.type ∈ orderedTypes) (none : term.values = []) :
      Ranged pattern term operator (.error (.missingValue term.field))
  | several (counted : term.Counted) (ordered : term.type ∈ orderedTypes)
      (several : 1 < term.values.length) :
      Ranged pattern term operator
        (.error (.multiValueNotAllowed term.field term.values.length))
  | invalid (ordered : term.type ∈ orderedTypes) {value : String} (one : term.values = [value])
      {fault : ValueFault} (refused : Value.indexed pattern term.field term.type value =
        .error (.invalidValue term.field value fault)) :
      Ranged pattern term operator (.error (.invalidValue term.field value fault))
  | bounded (ordered : term.type ∈ orderedTypes) {value : String} (one : term.values = [value])
      {bound : String} (taken : Value.indexed pattern term.field term.type value = .ok bound) :
      Ranged pattern term operator
        (.ok (some (.range (.oneSided term.field operator bound))))

theorem oneSided_eq (ordering : operator.isOrdering = true) (field bound : String) :
    Range.oneSided field operator bound =
      if boundsAbove operator then ⟨field, none, some bound, operator.isInclusive⟩
      else ⟨field, some bound, none, operator.isInclusive⟩ := by
  cases operator with
  | less | lessOrEqual | more | moreOrEqual => rfl
  | equal | notEqual => cases ordering

theorem range_ofTerm_of_equality (equality : operator.isOrdering = false) :
    Range.ofTerm pattern term operator =
      .error (.unsupportedRange term.field term.type operator) := by
  rw [Range.ofTerm, if_pos (by simp [equality])]

theorem range_ofTerm_of_unordered (unordered : term.type ∉ orderedTypes) :
    Range.ofTerm pattern term operator =
      .error (.unsupportedRange term.field term.type operator) := by
  rw [← isOrdered_iff, Bool.not_eq_true] at unordered
  rw [Range.ofTerm, if_pos (by simp [unordered])]

theorem range_ofTerm_of_ordered (ordering : operator.isOrdering = true)
    (ordered : term.type ∈ orderedTypes) :
    Range.ofTerm pattern term operator = (do
      let value ← term.singleValue
      let bound ← Value.indexed pattern term.field term.type value
      return .oneSided term.field operator bound) := by
  rw [← isOrdered_iff] at ordered
  rw [Range.ofTerm, if_neg (by simp [ordering, ordered])]
  refine bind_congr fun value => bind_congr fun bound => ?_
  rw [oneSided_eq ordering]
  split
  · rfl
  · rfl

theorem counted_of_one {value : String} (one : term.values = [value]) : term.Counted :=
  .inl (by simp [one])

theorem Ranged.eq {result : Except Error (Option Query)} (ordering : operator.isOrdering = true)
    (ranged : Ranged pattern term operator result) :
    Query.ofTerm? pattern term operator = result := by
  cases ranged with
  | surplus surplus => exact ofTerm?_of_surplus surplus
  | unordered counted unordered =>
      rw [ofTerm?_of_ordering counted ordering, range_ofTerm_of_unordered unordered]
      rfl
  | missing ordered none =>
      rw [ofTerm?_of_ordering (.inl (by simp [none])) ordering,
        range_ofTerm_of_ordered ordering ordered, singleValue_of_none none]
      rfl
  | several counted ordered several =>
      rw [ofTerm?_of_ordering counted ordering, range_ofTerm_of_ordered ordering ordered,
        singleValue_of_several several]
      rfl
  | invalid ordered one refused =>
      rw [ofTerm?_of_ordering (counted_of_one one) ordering,
        range_ofTerm_of_ordered ordering ordered, singleValue_of_one one]
      simp only [refused, Bind.bind, Except.bind]
  | bounded ordered one taken =>
      rw [ofTerm?_of_ordering (counted_of_one one) ordering,
        range_ofTerm_of_ordered ordering ordered, singleValue_of_one one]
      simp only [taken, Bind.bind, Except.bind]
      rfl

theorem ranged_exists (writable : Calendar.isWritable pattern) (term : ResolvedTerm)
    (operator : Operator) : ∃ result, Ranged pattern term operator result := by
  by_cases counted : term.Counted
  · by_cases ordered : term.type ∈ orderedTypes
    · match values : term.values with
      | [] => exact ⟨_, .missing ordered values⟩
      | [value] =>
          obtain ⟨bound, taken⟩ | ⟨fault, refused⟩ :=
            Value.indexed_cases writable term.field term.type value
          · exact ⟨_, .bounded ordered values taken⟩
          · exact ⟨_, .invalid ordered values refused⟩
      | first :: second :: others => exact ⟨_, .several counted ordered (by simp [values])⟩
    · exact ⟨_, .unordered counted ordered⟩
  · exact ⟨_, .surplus counted⟩

theorem ofTerm?_eq_iff_ranged (writable : Calendar.isWritable pattern)
    (ordering : operator.isOrdering = true) {result : Except Error (Option Query)} :
    Query.ofTerm? pattern term operator = result ↔ Ranged pattern term operator result := by
  constructor
  · intro same
    obtain ⟨outcome, ranged⟩ := ranged_exists writable term operator
    rwa [← same, ranged.eq ordering]
  · exact Ranged.eq ordering

/-- An exact match looks for phrases, alone or as alternatives. -/
theorem matchAny?_ne_range (field : String) (tokens : List (List String)) (range : Range) :
    matchAny? field tokens ≠ some (.range range) := by
  unfold matchAny?
  split
  · nofun
  · next query eq =>
      have mem : query ∈ (tokens.filter fun ts => !ts.isEmpty).map (Query.phrase field) := by
        simp [eq]
      obtain ⟨terms, -, rfl⟩ := List.mem_map.mp mem
      nofun
  · nofun

section Equality

variable (equality : operator.isOrdering = false)

include equality

theorem ofTerm?_ne_range_of_equality (range : Range) :
    Query.ofTerm? pattern term operator ≠ .ok (some (.range range)) := by
  intro found
  by_cases counted : term.Counted
  · rw [ofTerm?_of_equality counted equality] at found
    cases read : term.values.mapM (matchTokens pattern term) with
    | error error =>
        rw [read] at found
        cases found
    | ok tokens =>
        rw [read] at found
        exact matchAny?_ne_range term.field tokens range (Except.ok.inj found)
  · rw [ofTerm?_of_surplus counted] at found
    cases found

/-- There are more values than the field takes, or one of them is none of the type. -/
theorem ofTerm?_eq_error_of_equality (writable : Calendar.isWritable pattern) {error : Error}
    (failed : Query.ofTerm? pattern term operator = .error error) :
    error = .multiValueNotAllowed term.field term.values.length ∨
      ∃ value ∈ term.values, ∃ fault, error = .invalidValue term.field value fault := by
  by_cases counted : term.Counted
  · right
    rw [ofTerm?_of_equality counted equality] at failed
    obtain ⟨before, value, after, values, -, refused⟩ :=
      mapM_eq_error (eq_error_of_bind_pure failed)
    obtain ⟨fault, invalid⟩ := matchTokens_eq_error writable refused
    exact ⟨value, by simp [values], fault, invalid⟩
  · left
    rw [ofTerm?_of_surplus counted] at failed
    exact (Except.error.inj failed).symm

end Equality

/-- An ordering never vanishes, and its outcome is the one of the first condition that applies.
Equality and inequality give no range and none of the errors of ranges, and a range that is asked of
them is refused as such. -/
theorem range_decided_in_order (writable : Calendar.isWritable pattern) (term : ResolvedTerm)
    (operator : Operator) :
    (¬ (operator = .equal ∨ operator = .notEqual) →
      Query.ofTerm? pattern term operator ≠ .ok none ∧
      ∀ result, Query.ofTerm? pattern term operator = result ↔
        Ranged pattern term operator result) ∧
    (operator = .equal ∨ operator = .notEqual →
      (∀ range, Query.ofTerm? pattern term operator ≠ .ok (some (.range range))) ∧
      (∀ field type other,
        Query.ofTerm? pattern term operator ≠ .error (.unsupportedRange field type other)) ∧
      (∀ field, Query.ofTerm? pattern term operator ≠ .error (.missingValue field)) ∧
      Range.ofTerm pattern term operator =
        .error (.unsupportedRange term.field term.type operator)) := by
  rw [← isOrdering_eq_false_iff, Bool.not_eq_false]
  constructor
  · intro ordering
    refine ⟨?_, fun result => ofTerm?_eq_iff_ranged writable ordering⟩
    intro vanished
    cases (ofTerm?_eq_iff_ranged writable ordering).mp vanished
  · intro equality
    refine ⟨ofTerm?_ne_range_of_equality equality, ?_, ?_, range_ofTerm_of_equality equality⟩
    · intro field type other failed
      obtain surplus | ⟨value, -, fault, invalid⟩ :=
        ofTerm?_eq_error_of_equality equality writable failed
      · cases surplus
      · cases invalid
    · intro field failed
      obtain surplus | ⟨value, -, fault, invalid⟩ :=
        ofTerm?_eq_error_of_equality equality writable failed
      · cases surplus
      · cases invalid

/-- A name of stop words has no range although nothing is left of it, a date without one is missing,
and a date with one bounds the range from below. -/
theorem range_decided_in_order_names :
    Calendar.isWritable defaultDatePattern = true ∧
      Ranged defaultDatePattern (nameTerm ["the", "of"]) .more
        (.error (.unsupportedRange "name" .text .more)) ∧
      Ranged defaultDatePattern (dayTerm []) .less (.error (.missingValue "day")) ∧
      Ranged defaultDatePattern (dayTerm ["2024-05-01"]) .moreOrEqual
        (.ok (some (.range ⟨"day", some "2024-05-01T00:00:00Z", none, true⟩))) ∧
      Query.ofTerm? defaultDatePattern (nameTerm ["the", "of"]) .equal ≠
        .error (.unsupportedRange "name" .text .equal) := by
  have writable : Calendar.isWritable defaultDatePattern = true := rfl
  have decided := @range_decided_in_order defaultDatePattern writable
  refine ⟨writable, ?_, ?_, ?_, ?_⟩
  · exact (((decided (nameTerm ["the", "of"]) .more).1 (by decide)).2 _).mp rfl
  · exact (((decided (dayTerm []) .less).1 (by decide)).2 _).mp rfl
  · exact (((decided (dayTerm ["2024-05-01"]) .moreOrEqual).1 (by decide)).2 _).mp rfl
  · exact ((decided (nameTerm ["the", "of"]) .equal).2 (by decide)).2.1 _ _ _

end Search
end FieldQuery
