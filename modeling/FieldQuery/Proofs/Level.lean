import FieldQuery.Level

/-!
What a level makes of the next term. There are four outcomes: the conjunction is refused and nothing
happens, the term has no query and is only counted, its query becomes a clause, or its query is of
the other family, which is refused but counted. A level never changes its dialect.
-/

namespace FieldQuery
namespace Level

namespace Clauses

/-- The clauses are those of a level that was started for the dialect. -/
def Fits (dialect : Dialect) : Clauses → Prop
  | .relational kind _ => dialect.relational? = some kind
  | .search _ => dialect.relational? = none

theorem fits_empty (dialect : Dialect) : (empty dialect).Fits dialect := by
  cases dialect <;> rfl

theorem Fits.family_eq {dialect : Dialect} {clauses : Clauses} (fits : clauses.Fits dialect) :
    clauses.family = dialect.family := by
  cases clauses <;> cases dialect <;> simp_all [Fits, Dialect.relational?, family, Dialect.family]

theorem add?_isSome_iff (clauses : Clauses) (conjunction : Conjunction) (query : FamilyQuery)
    (operator : Operator) :
    (clauses.add? conjunction query operator).isSome ↔ query.family = clauses.family := by
  cases clauses <;> cases query <;> simp [add?, family, FamilyQuery.family]

theorem Fits.add? {dialect : Dialect} {clauses added : Clauses} (fits : clauses.Fits dialect)
    {conjunction : Conjunction} {query : FamilyQuery} {operator : Operator}
    (h : clauses.add? conjunction query operator = some added) : added.Fits dialect := by
  cases clauses <;> cases query <;> simp only [Clauses.add?, Option.some.injEq, reduceCtorEq] at h
  all_goals
    subst h
    exact fits

theorem family_of_group? {clauses : Clauses} {query : FamilyQuery}
    (h : clauses.group? = some query) : query.family = clauses.family := by
  cases clauses with
  | relational kind clauses =>
      cases clauses <;> simp only [group?, Option.some.injEq, reduceCtorEq] at h
      subst h
      rfl
  | search fold =>
      obtain ⟨inner, _, rfl⟩ := Option.map_eq_some_iff.mp h
      rfl

@[simp] theorem size_empty (dialect : Dialect) : (empty dialect).size = 0 := by
  cases dialect <;> rfl

theorem size_pos_of_add? {clauses added : Clauses} {conjunction : Conjunction}
    {query : FamilyQuery} {operator : Operator}
    (h : clauses.add? conjunction query operator = some added) : 0 < added.size := by
  cases clauses <;> cases query <;> simp only [Clauses.add?, Option.some.injEq, reduceCtorEq] at h
  all_goals subst h
  · simp [size]
  · simp only [size, Search.Fold.size, Search.Fold.add]
    split
    · split <;> simp
    · simp

theorem group?_eq_none_iff (clauses : Clauses) : clauses.group? = none ↔ clauses.size = 0 := by
  cases clauses with
  | relational kind clauses => cases clauses <;> simp [group?, size]
  | search fold => simp [group?, size, Search.Fold.query?, Search.Fold.size]

end Clauses

theorem refusal?_eq_none_iff (level : Level) (conjunction : Conjunction) :
    level.refusal? conjunction = none ↔ (conjunction = .none → level.termsSeen = 0) := by
  by_cases h : conjunction = .none <;> simp [refusal?, h]

theorem refusal?_eq_some {level : Level} {conjunction : Conjunction} {error : Error}
    (h : level.refusal? conjunction = some error) : error = .misplacedConjunction := by
  simp only [refusal?] at h
  split at h
  · exact (Option.some.inj h).symm
  · cases h

theorem add_cases (level : Level) (conjunction : Conjunction) (query : Option FamilyQuery)
    (operator : Operator) :
    (level.refusal? conjunction = some .misplacedConjunction ∧
      level.add conjunction query operator = ⟨level, some .misplacedConjunction⟩) ∨
    (level.refusal? conjunction = none ∧ query = none ∧
      level.add conjunction query operator = ⟨⟨level.termsSeen + 1, level.clauses⟩, none⟩) ∨
    (∃ q clauses, level.refusal? conjunction = none ∧ query = some q ∧
      level.clauses.add? conjunction q operator = some clauses ∧
      level.add conjunction query operator = ⟨⟨level.termsSeen + 1, clauses⟩, none⟩) ∨
    (∃ q, level.refusal? conjunction = none ∧ query = some q ∧ q.family ≠ level.clauses.family ∧
      level.add conjunction query operator = ⟨⟨level.termsSeen + 1, level.clauses⟩,
        some (.dialectMismatch level.clauses.family q.family)⟩) := by
  cases refused : level.refusal? conjunction with
  | some error =>
      cases refusal?_eq_some refused
      exact .inl ⟨rfl, by simp [add, refused]⟩
  | none =>
      refine .inr ?_
      cases query with
      | none => exact .inl ⟨rfl, rfl, by simp [add, refused]⟩
      | some q =>
          cases added : level.clauses.add? conjunction q operator with
          | some clauses =>
              exact .inr (.inl ⟨q, clauses, rfl, rfl, added, by simp [add, refused, added]⟩)
          | none =>
              have foreign : q.family ≠ level.clauses.family := by
                rw [ne_eq, ← Clauses.add?_isSome_iff _ conjunction q operator, added]
                simp
              exact .inr (.inr ⟨q, rfl, rfl, foreign, by simp [add, refused, added]⟩)

theorem fits_add {dialect : Dialect} {level : Level} (fits : level.clauses.Fits dialect)
    (conjunction : Conjunction) (query : Option FamilyQuery) (operator : Operator) :
    (level.add conjunction query operator).state.clauses.Fits dialect := by
  obtain ⟨-, eq⟩ | ⟨-, -, eq⟩ | ⟨q, clauses, -, -, added, eq⟩ | ⟨q, -, -, -, eq⟩ :=
    level.add_cases conjunction query operator <;> rw [eq]
  · exact fits
  · exact fits
  · exact fits.add? added
  · exact fits

theorem add_accepted {level : Level} {conjunction : Conjunction} {query : Option FamilyQuery}
    (placed : level.refusal? conjunction = none)
    (family : ∀ q, query = some q → q.family = level.clauses.family) (operator : Operator) :
    (level.add conjunction query operator).refusal = none := by
  obtain ⟨refused, -⟩ | ⟨-, -, eq⟩ | ⟨q, clauses, -, -, -, eq⟩ | ⟨q, -, given, foreign, -⟩ :=
    level.add_cases conjunction query operator
  · simp [placed] at refused
  · simp [eq]
  · simp [eq]
  · exact absurd (family q given) foreign

theorem size_add_pos_iff {level : Level} {conjunction : Conjunction} {query : Option FamilyQuery}
    {operator : Operator} (accepted : (level.add conjunction query operator).refusal = none) :
    0 < (level.add conjunction query operator).state.clauses.size ↔
      0 < level.clauses.size ∨ query.isSome := by
  obtain ⟨-, eq⟩ | ⟨-, rfl, eq⟩ | ⟨q, clauses, -, rfl, added, eq⟩ | ⟨q, -, -, -, eq⟩ :=
    level.add_cases conjunction query operator <;> rw [eq] at accepted ⊢
  · cases accepted
  · simp
  · simp [Clauses.size_pos_of_add? added]
  · cases accepted

end Level
end FieldQuery
