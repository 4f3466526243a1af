import FieldQuery.Search.Fold

/-!
The search fold in closed form. A clause gets an occurrence when it arrives and may lose it once
more, when the next term arrives; both rules together leave an occurrence that the term and the
conjunction after it decide. Nothing else is ever changed, so all clauses but the newest are final.
-/

namespace FieldQuery
namespace Search

/-- A term as it is offered to the fold. -/
structure Offer where
  conjunction : Conjunction
  query : Query
  operator : Operator

/-- Inequality and the conjunction NOT both negate; exactly one of them makes a term negative. -/
def negates (operator : Operator) (conjunction : Conjunction) : Bool :=
  (operator == .notEqual) != (conjunction == .not)

/-- The occurrence that a term is left with, given the conjunction of the term after it. -/
def settledOccurrence (operator : Operator) (conjunction : Conjunction)
    (next : Option Conjunction) : Occurrence :=
  if negates operator conjunction then .prohibited
  else if next = some .and then .required
  else if next = some .or ∧ conjunction ≠ .and then .optional
  else if conjunction = .or then .optional
  else .required

def settledClauses (offers : List Offer) : List Clause :=
  offers.mapIdx fun i offer =>
    ⟨settledOccurrence offer.operator offer.conjunction (offers[i + 1]?.map Offer.conjunction),
      offer.query⟩

/-- What stands before the clauses of the offers: everything, from which a leading negation is
taken away. -/
def leadingClauses : List Offer → List Clause
  | [] => []
  | first :: _ =>
    if negates first.operator first.conjunction then [⟨.optional, .matchAll⟩] else []

/-- The query that offers fold to, said without the fold. -/
def settledQuery (offers : List Offer) : Query :=
  if offers.isEmpty then .matchAll
  else .boolean (leadingClauses offers ++ settledClauses offers)

def Fold.addAll (fold : Fold) (offers : List Offer) : Fold :=
  offers.foldl (fun fold offer => fold.add offer.conjunction offer.query offer.operator) fold

theorem settledClauses_nil : settledClauses [] = [] := rfl

theorem settledClauses_cons (offer : Offer) (offers : List Offer) :
    settledClauses (offer :: offers) =
      ⟨settledOccurrence offer.operator offer.conjunction (offers.head?.map Offer.conjunction),
        offer.query⟩ :: settledClauses offers := by
  simp [settledClauses, List.mapIdx_cons, List.head?_eq_getElem?]

theorem length_settledClauses (offers : List Offer) :
    (settledClauses offers).length = offers.length := by
  simp [settledClauses]

theorem query_settledClauses (offers : List Offer) :
    (settledClauses offers).map Clause.query = offers.map Offer.query := by
  induction offers with
  | nil => rfl
  | cons offer offers ih => simp [settledClauses_cons, ih]

theorem initialOccurrence_eq_settled (operator : Operator) (conjunction : Conjunction) :
    initialOccurrence operator conjunction = settledOccurrence operator conjunction none := by
  cases operator <;> cases conjunction <;> rfl

theorem revise_initialOccurrence (operator : Operator) (conjunction next : Conjunction) :
    revise (initialOccurrence operator conjunction) conjunction next =
      settledOccurrence operator conjunction (some next) := by
  cases operator <;> cases conjunction <;> cases next <;> rfl

theorem initialOccurrence_prohibited_iff (operator : Operator) (conjunction : Conjunction) :
    initialOccurrence operator conjunction = .prohibited ↔
      negates operator conjunction = true := by
  cases operator <;> cases conjunction <;> decide

namespace Fold

theorem addAll_append (fold : Fold) (offers later : List Offer) :
    fold.addAll (offers ++ later) = (fold.addAll offers).addAll later :=
  List.foldl_append

theorem clauses_addAll_newest (offer : Offer) (older : List Pending) (offers : List Offer) :
    (addAll ⟨Pending.ofTerm offer.conjunction offer.query offer.operator :: older⟩ offers).clauses =
      (older.map Pending.clause).reverse ++ settledClauses (offer :: offers) := by
  -- Below the newest clause, which is still as it arrived, nothing moves.
  induction offers generalizing offer older with
  | nil =>
      simp [addAll, clauses, Pending.ofTerm, settledClauses_cons, settledClauses_nil,
        initialOccurrence_eq_settled]
  | cons next offers ih =>
      -- Adding `next` revises `offer` for the last time and makes `next` the newest clause.
      have step := ih next
        (⟨offer.conjunction, ⟨settledOccurrence offer.operator offer.conjunction
          (some next.conjunction), offer.query⟩⟩ :: older)
      rw [settledClauses_cons offer]
      simpa [addAll, add, Pending.ofTerm, revise_initialOccurrence] using step

theorem clauses_addAll (offers : List Offer) :
    (addAll {} offers).clauses = leadingClauses offers ++ settledClauses offers := by
  cases offers with
  | nil => rfl
  | cons first rest =>
      have start : add {} first.conjunction first.query first.operator =
          ⟨Pending.ofTerm first.conjunction first.query first.operator ::
            if negates first.operator first.conjunction then [everything] else []⟩ := by
        by_cases h : negates first.operator first.conjunction = true
        · simp [add, Pending.ofTerm, (initialOccurrence_prohibited_iff _ _).mpr h, h]
        · simp [add, Pending.ofTerm, initialOccurrence_prohibited_iff, h]
      have run := clauses_addAll_newest first
        (if negates first.operator first.conjunction then [everything] else []) rest
      rw [← start] at run
      change (addAll (add {} first.conjunction first.query first.operator) rest).clauses = _
      rw [run]
      by_cases h : negates first.operator first.conjunction = true <;>
        simp [leadingClauses, everything, h]

theorem size_eq_length_clauses (fold : Fold) : fold.size = fold.clauses.length := by
  simp [size, clauses]

theorem query?_eq (fold : Fold) :
    fold.query? = if fold.clauses.isEmpty then none else some (.boolean fold.clauses) := by
  simp [query?, clauses, List.isEmpty_iff]

end Fold

theorem settled_isEmpty_iff (offers : List Offer) :
    (leadingClauses offers ++ settledClauses offers).isEmpty = offers.isEmpty := by
  cases offers <;> simp [leadingClauses, settledClauses_nil, settledClauses_cons]

theorem Fold.query?_addAll (offers : List Offer) :
    (Fold.addAll {} offers).query? =
      if offers.isEmpty then none else some (settledQuery offers) := by
  rw [Fold.query?_eq, Fold.clauses_addAll, settled_isEmpty_iff, settledQuery]
  split <;> rfl

theorem Fold.query_addAll (offers : List Offer) :
    (Fold.addAll {} offers).query = settledQuery offers := by
  rw [Fold.query, Fold.query?_addAll]
  cases offers <;> rfl

theorem dropLast_settledClauses_kept (offers later : List Offer) :
    (settledClauses offers).dropLast <+: settledClauses (offers ++ later) := by
  induction offers with
  | nil => exact List.nil_prefix
  | cons offer offers ih =>
      cases offers with
      | nil => exact List.nil_prefix
      | cons next offers =>
          rw [List.cons_append, settledClauses_cons, settledClauses_cons offer,
            List.dropLast_cons_of_ne_nil (by simp [settledClauses_cons])]
          simpa using ih

theorem Fold.dropLast_clauses_kept (offers later : List Offer) :
    (Fold.addAll {} offers).clauses.dropLast <+:
      (Fold.addAll {} (offers ++ later)).clauses := by
  cases offers with
  | nil => exact List.nil_prefix
  | cons first rest =>
      rw [Fold.clauses_addAll, Fold.clauses_addAll,
        List.dropLast_append_of_ne_nil (by simp [settledClauses_cons])]
      exact (List.prefix_append_right_inj _).mpr
        (dropLast_settledClauses_kept (first :: rest) later)

theorem leadingClauses_kept (offers later : List Offer) :
    leadingClauses offers <+: (Fold.addAll {} (offers ++ later)).clauses := by
  cases offers with
  | nil => exact List.nil_prefix
  | cons first rest =>
      rw [Fold.clauses_addAll]
      exact List.prefix_append _ _

/-- Any offers in any order fold to the query in closed form: the queries in the order of arrival,
each under the occurrence that its own term and the next conjunction settle, and in front of them at
most one clause that matches everything. Whatever comes later changes none but the newest clause,
and what stands in front stays there. -/
theorem Fold.addAll_settles (offers later : List Offer) :
    (Fold.addAll {} offers).query = settledQuery offers ∧
      (settledClauses offers).map Clause.query = offers.map Offer.query ∧
      (Fold.addAll {} offers).size = (leadingClauses offers).length + offers.length ∧
      (Fold.addAll {} offers).clauses.dropLast <+: (Fold.addAll {} (offers ++ later)).clauses ∧
      leadingClauses offers <+: (Fold.addAll {} (offers ++ later)).clauses := by
  refine ⟨Fold.query_addAll offers, query_settledClauses offers, ?_,
    Fold.dropLast_clauses_kept offers later, leadingClauses_kept offers later⟩
  rw [Fold.size_eq_length_clauses, Fold.clauses_addAll, List.length_append,
    length_settledClauses]

end Search
end FieldQuery
