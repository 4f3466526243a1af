import FieldQuery.Relational.Query

/-!
What a list of clauses means for a row, where all of them are joined in one way.
-/

namespace FieldQuery
namespace Relational

variable (row : Row)

/-- The condition that a clause stands for, with the negation that its conjunction adds. -/
def Row.holds (clause : Clause) : Bool := (clause.conjunction == .not) != row.satisfies clause.query

theorem holds_eq (conjunction : Conjunction) (query : Query) :
    row.holds ⟨conjunction, query⟩ =
      if conjunction = .not then !row.satisfies query else row.satisfies query := by
  cases conjunction <;> cases h : row.satisfies query <;> simp only [Row.holds, h] <;> rfl

theorem satisfiesAll_cons (clause : Clause) (clauses : List Clause) :
    row.satisfiesAll (clause :: clauses) = row.satisfiesAfter (row.holds clause) clauses := by
  obtain ⟨conjunction, query⟩ := clause
  rw [Row.satisfiesAll, Row.holds]

theorem satisfiesAfter_of_and {clauses : List Clause}
    (joined : ∀ clause ∈ clauses, clause.conjunction ≠ .or) (sofar : Bool) :
    row.satisfiesAfter sofar clauses = (sofar && clauses.all row.holds) := by
  induction clauses generalizing sofar with
  | nil => simp [Row.satisfiesAfter]
  | cons clause clauses ih =>
      obtain ⟨conjunction, query⟩ := clause
      obtain ⟨own, others⟩ := List.forall_mem_cons.mp joined
      have rest := ih others
      cases conjunction with
      | or => exact absurd rfl own
      | none | and | not => simp [Row.satisfiesAfter, rest, holds_eq, Bool.and_assoc]

theorem satisfiesAll_of_and {clauses : List Clause}
    (joined : ∀ clause ∈ clauses, clause.conjunction ≠ .or) :
    row.satisfiesAll clauses = clauses.all row.holds := by
  cases clauses with
  | nil => simp [Row.satisfiesAll]
  | cons clause clauses =>
      rw [satisfiesAll_cons, satisfiesAfter_of_and row (List.forall_mem_cons.mp joined).2,
        List.all_cons]

theorem satisfiesAfter_of_or {clauses : List Clause}
    (joined : ∀ clause ∈ clauses, clause.conjunction = .or) (sofar : Bool) :
    row.satisfiesAfter sofar clauses = (sofar || clauses.any row.holds) := by
  induction clauses generalizing sofar with
  | nil => simp [Row.satisfiesAfter]
  | cons clause clauses ih =>
      obtain ⟨conjunction, query⟩ := clause
      obtain ⟨own, others⟩ := List.forall_mem_cons.mp joined
      have rest := ih others
      cases own
      simp [Row.satisfiesAfter, rest, holds_eq]

theorem satisfiesAll_of_or {first : Clause} {rest : List Clause}
    (joined : ∀ clause ∈ rest, clause.conjunction = .or) :
    row.satisfiesAll (first :: rest) = (first :: rest).any row.holds := by
  rw [satisfiesAll_cons, satisfiesAfter_of_or row joined, List.any_cons]

end Relational
end FieldQuery
