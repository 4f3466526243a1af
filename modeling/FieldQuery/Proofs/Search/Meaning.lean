import FieldQuery.Proofs.Search.SettledClauses

/-!
What folded clauses mean for a document, where all of them are joined in one way: clauses without OR
are a conjunction of their signed queries, clauses joined by OR a disjunction.
-/

namespace FieldQuery
namespace Search

variable (document : Document)

/-- The clause does not stand in the way of a match. -/
def Document.admits (clause : Clause) : Bool :=
  match clause.occurrence with
  | .required => document.satisfies clause.query
  | .prohibited => !document.satisfies clause.query
  | .optional => true

/-- The clause is reason enough for a match. -/
def Document.supports (clause : Clause) : Bool :=
  match clause.occurrence with
  | .required => true
  | .prohibited => false
  | .optional => document.satisfies clause.query

/-- The condition that a term stands for, with its negations. -/
def Document.holds (offer : Offer) : Bool :=
  document.satisfies offer.query != negates offer.operator offer.conjunction

theorem admits_eq (clauses : List Clause) :
    (document.satisfiesRequired clauses && document.avoidsProhibited clauses) =
      clauses.all document.admits := by
  induction clauses with
  | nil => rfl
  | cons clause clauses ih =>
      obtain ⟨occurrence, query⟩ := clause
      rw [List.all_cons, ← ih]
      cases occurrence with
      | required =>
          simp [Document.satisfiesRequired, Document.avoidsProhibited, Document.admits,
            Bool.and_assoc]
      | prohibited =>
          simp [Document.satisfiesRequired, Document.avoidsProhibited, Document.admits,
            Bool.and_left_comm]
      | optional =>
          simp [Document.satisfiesRequired, Document.avoidsProhibited, Document.admits]

theorem hasSupport_eq (clauses : List Clause) :
    document.hasSupport clauses = clauses.any document.supports := by
  induction clauses with
  | nil => rfl
  | cons clause clauses ih =>
      obtain ⟨occurrence, query⟩ := clause
      cases occurrence <;> simp [Document.hasSupport, Document.supports, ih]

theorem satisfies_boolean (clauses : List Clause) :
    document.satisfies (.boolean clauses) =
      (clauses.all document.admits && clauses.any document.supports) := by
  rw [Document.satisfies, admits_eq, hasSupport_eq]

theorem settledOccurrence_of_ne_or {operator : Operator} {conjunction : Conjunction}
    {next : Option Conjunction} (own : conjunction ≠ .or) (following : next ≠ some .or) :
    settledOccurrence operator conjunction next =
      if negates operator conjunction then .prohibited else .required := by
  simp [settledOccurrence, own, following]

theorem head?_ne_or {offers : List Offer} (joined : ∀ offer ∈ offers, offer.conjunction ≠ .or) :
    offers.head?.map Offer.conjunction ≠ some .or := by
  cases offers with
  | nil => simp
  | cons first rest => simpa using joined first (by simp)

theorem all_admits_settledClauses {offers : List Offer}
    (joined : ∀ offer ∈ offers, offer.conjunction ≠ .or) :
    (settledClauses offers).all document.admits = offers.all document.holds := by
  induction offers with
  | nil => rfl
  | cons offer offers ih =>
      obtain ⟨own, others⟩ := List.forall_mem_cons.mp joined
      rw [settledClauses_cons, List.all_cons, List.all_cons, ih others,
        settledOccurrence_of_ne_or own (head?_ne_or others)]
      cases h : negates offer.operator offer.conjunction <;>
        simp [Document.admits, Document.holds, h]

theorem satisfies_settledQuery_of_and {offers : List Offer}
    (joined : ∀ offer ∈ offers, offer.conjunction ≠ .or) :
    document.satisfies (settledQuery offers) = offers.all document.holds := by
  cases offers with
  | nil => simp [settledQuery, Document.satisfies]
  | cons first rest =>
      have leading : (leadingClauses (first :: rest)).all document.admits = true := by
        cases h : negates first.operator first.conjunction <;>
          simp [leadingClauses, h, Document.admits]
      -- A leading negation has everything in front of it; any other first clause is required.
      have support : (leadingClauses (first :: rest) ++ settledClauses (first :: rest)).any
          document.supports = true := by
        obtain ⟨own, others⟩ := List.forall_mem_cons.mp joined
        rw [settledClauses_cons, settledOccurrence_of_ne_or own (head?_ne_or others)]
        cases h : negates first.operator first.conjunction <;>
          simp [leadingClauses, h, Document.supports, Document.satisfies]
      simp only [settledQuery, List.isEmpty_cons, Bool.false_eq_true, if_false]
      rw [satisfies_boolean, support, List.all_append, leading,
        all_admits_settledClauses document joined, Bool.true_and, Bool.and_true]

theorem satisfies_anyOf (queries : List Query) :
    document.satisfies (.anyOf queries) = queries.any document.satisfies := by
  have admitted : (queries.map fun q => (⟨.optional, q⟩ : Clause)).all document.admits = true := by
    simp [Document.admits]
  have supported : (queries.map fun q => (⟨.optional, q⟩ : Clause)).any document.supports =
      queries.any document.satisfies := by
    rw [List.any_map]
    rfl
  rw [Query.anyOf, satisfies_boolean, admitted, supported, Bool.true_and]

theorem settledOccurrence_before_or {operator : Operator} {conjunction : Conjunction}
    (positive : negates operator conjunction = false) (free : conjunction ≠ .and) :
    settledOccurrence operator conjunction (some .or) = .optional := by
  simp [settledOccurrence, positive, free]

theorem settledOccurrence_last {operator : Operator} {conjunction : Conjunction}
    (positive : negates operator conjunction = false) :
    settledOccurrence operator conjunction none =
      if conjunction = .or then .optional else .required := by
  simp [settledOccurrence, positive]

theorem settledClauses_of_or {offers : List Offer}
    (joined : ∀ offer ∈ offers, offer.conjunction = .or)
    (positive : ∀ offer ∈ offers, negates offer.operator offer.conjunction = false) :
    settledClauses offers = offers.map fun offer => ⟨.optional, offer.query⟩ := by
  induction offers with
  | nil => rfl
  | cons offer offers ih =>
      obtain ⟨own, others⟩ := List.forall_mem_cons.mp joined
      obtain ⟨signed, othersSigned⟩ := List.forall_mem_cons.mp positive
      rw [own] at signed
      rw [settledClauses_cons, ih others othersSigned, List.map_cons, own]
      cases offers with
      | nil => simp [settledOccurrence_last signed]
      | cons next offers =>
          have following : next.conjunction = .or := others next (List.mem_cons_self ..)
          simp [following, settledOccurrence_before_or signed]

theorem satisfies_settledQuery_of_or {first : Offer} {rest : List Offer}
    (free : first.conjunction ≠ .and) (joined : ∀ offer ∈ rest, offer.conjunction = .or)
    (positive : ∀ offer ∈ first :: rest, negates offer.operator offer.conjunction = false) :
    document.satisfies (settledQuery (first :: rest)) =
      (first :: rest).any document.holds := by
  obtain ⟨own, signed⟩ := List.forall_mem_cons.mp positive
  have others : settledClauses rest = rest.map fun offer => ⟨.optional, offer.query⟩ :=
    settledClauses_of_or joined signed
  have plain : settledQuery (first :: rest) = .boolean (settledClauses (first :: rest)) := by
    simp [settledQuery, leadingClauses, own]
  have signless : (first :: rest).any document.holds =
      ((first :: rest).map Offer.query).any document.satisfies := by
    rw [List.any_map, Bool.eq_iff_iff, List.any_eq_true, List.any_eq_true]
    refine exists_congr fun offer => and_congr_right fun mem => ?_
    simp [Document.holds, positive offer mem]
  rw [plain, settledClauses_cons, others, signless]
  -- The first clause may end up required, but only when it is alone.
  cases rest with
  | nil =>
      rw [List.head?_nil, Option.map_none, settledOccurrence_last own, satisfies_boolean]
      split <;> simp [Document.admits, Document.supports]
  | cons next rest =>
      have following : next.conjunction = .or := joined next (List.mem_cons_self ..)
      rw [List.head?_cons, Option.map_some, following, settledOccurrence_before_or own free]
      rw [← satisfies_anyOf, Query.anyOf, List.map_map]
      rfl

end Search
end FieldQuery
