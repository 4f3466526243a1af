import FieldQuery.Proofs.Search.SettledClauses
import FieldQuery.Search.Term

/-!
Trees that a search engine takes as they are meant. A boolean query of prohibited clauses alone
matches nothing, a phrase without tokens says nothing, and a range is meant to be open on one side.
A query that matches everything has a place as a whole, or in front of a negation that leads. Terms
compile to trees of this kind, and the fold makes one out of those that it is offered.
-/

namespace FieldQuery

theorem exists_of_bind_eq_ok {ε β γ : Type} {result : Except ε β} {next : β → Except ε γ}
    {value : γ} (h : result >>= next = .ok value) :
    ∃ first, result = .ok first ∧ next first = .ok value := by
  cases result with
  | error error => cases h
  | ok first => exact ⟨first, rfl, h⟩

namespace Search

/-- What a query is made of at every depth, the query itself included. -/
inductive Query.Within : Query → Query → Prop
  | self (query : Query) : Within query query
  | clause {part : Query} {clause : Clause} {clauses : List Clause} (mem : clause ∈ clauses)
      (within : Within part clause.query) : Within part (.boolean clauses)

structure SoundClauses (clauses : List Clause) : Prop where
  nonempty : clauses ≠ []
  supported : ∃ clause ∈ clauses, clause.occurrence ≠ .prohibited
  everythingFirst : ∀ clause ∈ clauses.tail, clause.query ≠ .matchAll
  everythingLeads : ∀ clause ∈ clauses.head?, clause.query = .matchAll →
    clause.occurrence = .optional ∧ ∃ second ∈ clauses[1]?, second.occurrence = .prohibited

/-- A query looked at without the queries inside its clauses. -/
def Query.NodeSound : Query → Prop
  | .matchAll => True
  | .phrase _ terms => terms ≠ []
  | .range bounds => bounds.lower.isSome ≠ bounds.upper.isSome
  | .boolean clauses => SoundClauses clauses

def Query.Sound (query : Query) : Prop := ∀ part : Query, part.Within query → part.NodeSound

/-- A sound query that may stand in any clause. -/
structure Query.Proper (query : Query) : Prop where
  sound : query.Sound
  selective : query ≠ .matchAll

namespace Query

theorem sound_matchAll : Sound .matchAll := by
  intro part within
  cases within
  trivial

theorem proper_phrase {field : String} {terms : List String} (nonempty : terms ≠ []) :
    Proper (.phrase field terms) := by
  refine ⟨fun part within => ?_, nofun⟩
  cases within
  exact nonempty

theorem proper_range {bounds : Range} (oneSided : bounds.lower.isSome ≠ bounds.upper.isSome) :
    Proper (.range bounds) := by
  refine ⟨fun part within => ?_, nofun⟩
  cases within
  exact oneSided

theorem proper_boolean {clauses : List Clause} (node : SoundClauses clauses)
    (parts : ∀ clause ∈ clauses, clause.query.Sound) : Proper (.boolean clauses) := by
  refine ⟨fun part within => ?_, nofun⟩
  cases within with
  | self => exact node
  | clause mem within => exact parts _ mem part within

end Query

/-- Where no clause matches everything, one clause that may match is all that is asked. -/
theorem Query.proper_boolean_of_supported {clauses : List Clause}
    (supported : ∃ clause ∈ clauses, clause.occurrence ≠ .prohibited)
    (parts : ∀ clause ∈ clauses, clause.query.Proper) : Query.Proper (.boolean clauses) := by
  have selective : ∀ clause ∈ clauses, clause.query ≠ .matchAll :=
    fun clause mem => (parts clause mem).selective
  have nonempty : clauses ≠ [] := by
    obtain ⟨clause, mem, -⟩ := supported
    exact List.ne_nil_of_mem mem
  refine proper_boolean ⟨nonempty, supported, ?_, ?_⟩ fun clause mem => (parts clause mem).sound
  · exact fun clause mem => selective clause (List.mem_of_mem_tail mem)
  · exact fun clause mem everything =>
      absurd everything (selective clause (List.mem_of_mem_head? mem))

section Terms

theorem proper_anyOf {queries : List Query} (nonempty : queries ≠ [])
    (proper : ∀ query ∈ queries, query.Proper) : (Query.anyOf queries).Proper := by
  have parts : ∀ clause ∈ queries.map fun q => Clause.mk .optional q, clause.query.Proper := by
    intro clause mem
    obtain ⟨query, given, rfl⟩ := List.mem_map.mp mem
    exact proper query given
  obtain ⟨first, rest, rfl⟩ := List.exists_cons_of_ne_nil nonempty
  exact Query.proper_boolean_of_supported ⟨_, List.mem_cons_self .., nofun⟩ parts

theorem proper_matchAny? {field : String} {tokens : List (List String)} {query : Query}
    (h : matchAny? field tokens = some query) : query.Proper := by
  have phrases : ∀ q ∈ (tokens.filter fun ts => !ts.isEmpty).map (Query.phrase field),
      q.Proper := by
    intro q mem
    obtain ⟨terms, kept, rfl⟩ := List.mem_map.mp mem
    exact Query.proper_phrase (by simpa using (List.mem_filter.mp kept).2)
  unfold matchAny? at h
  split at h
  · cases h
  · rename_i only eq
    cases h
    exact phrases query (by simp [eq])
  · rename_i none one
    cases h
    exact proper_anyOf none phrases

theorem oneSided_ofTerm {pattern : String} {term : ResolvedTerm} {operator : Operator}
    {bounds : Range} (h : Range.ofTerm pattern term operator = .ok bounds) :
    bounds.lower.isSome ≠ bounds.upper.isSome := by
  unfold Range.ofTerm at h
  split at h
  · cases h
  · obtain ⟨value, -, h⟩ := exists_of_bind_eq_ok h
    obtain ⟨bound, -, h⟩ := exists_of_bind_eq_ok h
    split at h <;> cases h <;> nofun

theorem proper_ofTerm? {pattern : String} {term : ResolvedTerm} {operator : Operator}
    {query : Query} (h : Query.ofTerm? pattern term operator = .ok (some query)) :
    query.Proper := by
  obtain ⟨-, -, h⟩ := exists_of_bind_eq_ok h
  split at h
  · obtain ⟨bounds, ranged, h⟩ := exists_of_bind_eq_ok h
    cases h
    exact Query.proper_range (oneSided_ofTerm ranged)
  · obtain ⟨tokens, -, h⟩ := exists_of_bind_eq_ok h
    exact proper_matchAny? (Except.ok.inj h)

end Terms

section Fold

theorem settledOccurrence_eq_prohibited_iff (operator : Operator) (conjunction : Conjunction)
    (next : Option Conjunction) :
    settledOccurrence operator conjunction next = .prohibited ↔
      negates operator conjunction = true := by
  by_cases negative : negates operator conjunction = true
  · simp [settledOccurrence, negative]
  · simp only [settledOccurrence, negative, Bool.false_eq_true, if_false, iff_false]
    split
    · nofun
    · split
      · nofun
      · split <;> nofun

theorem mem_settledClauses {offers : List Offer} {clause : Clause}
    (mem : clause ∈ settledClauses offers) : ∃ offer ∈ offers, offer.query = clause.query := by
  have query : clause.query ∈ (settledClauses offers).map Clause.query :=
    List.mem_map_of_mem mem
  rw [query_settledClauses] at query
  exact List.mem_map.mp query

theorem proper_settledQuery {offers : List Offer} (nonempty : offers ≠ [])
    (proper : ∀ offer ∈ offers, offer.query.Proper) : (settledQuery offers).Proper := by
  have parts : ∀ clause ∈ settledClauses offers, clause.query.Proper := by
    intro clause mem
    obtain ⟨offer, given, eq⟩ := mem_settledClauses mem
    exact eq ▸ proper offer given
  obtain ⟨first, rest, rfl⟩ := List.exists_cons_of_ne_nil nonempty
  by_cases leads : negates first.operator first.conjunction = true
  · have query : settledQuery (first :: rest) =
        .boolean (⟨.optional, .matchAll⟩ :: settledClauses (first :: rest)) := by
      simp [settledQuery, leadingClauses, leads]
    rw [query]
    refine Query.proper_boolean ⟨List.cons_ne_nil _ _, ⟨_, List.mem_cons_self .., by decide⟩,
      fun clause mem => (parts clause mem).selective, ?_⟩ ?_
    · -- The first clause is the one that was put in front, and the negation comes next.
      intro clause front _
      cases front
      refine ⟨rfl, _, by rw [settledClauses_cons]; rfl, ?_⟩
      exact (settledOccurrence_eq_prohibited_iff ..).mpr leads
    · intro clause mem
      obtain rfl | mem := List.mem_cons.mp mem
      · exact Query.sound_matchAll
      · exact (parts clause mem).sound
  · have query : settledQuery (first :: rest) = .boolean (settledClauses (first :: rest)) := by
      simp [settledQuery, leadingClauses, leads]
    have supported : ∃ clause ∈ settledClauses (first :: rest),
        clause.occurrence ≠ .prohibited := by
      rw [settledClauses_cons]
      exact ⟨_, List.mem_cons_self .., fun prohibited =>
        leads ((settledOccurrence_eq_prohibited_iff ..).mp prohibited)⟩
    rw [query]
    exact Query.proper_boolean_of_supported supported parts

end Fold

end Search
end FieldQuery
