import FieldQuery.Operator
import FieldQuery.Search.Query

/-!
Clauses joined by conjunctions, folded from left to right into one flat boolean query. The
occurrence of a clause is settled once the conjunction after it is known, so only the newest clause
is ever open to revision.
-/

namespace FieldQuery
namespace Search

def initialOccurrence (operator : Operator) (conjunction : Conjunction) : Occurrence :=
  match Polarity.of operator conjunction, conjunction with
  | .negative, _ => .prohibited
  | .positive, .or => .optional
  | .positive, _ => .required

/-- What a clause becomes when `next` follows it. A clause that came with AND stays bound to its
predecessor, and a prohibited clause stays as it is. -/
def revise (previous : Occurrence) (previousConjunction next : Conjunction) : Occurrence :=
  match previous, next with
  | .prohibited, _ => .prohibited
  | _, .and => .required
  | occurrence, .or => if previousConjunction = .and then occurrence else .optional
  | occurrence, _ => occurrence

/-- A clause and the conjunction it came with. -/
structure Pending where
  conjunction : Conjunction
  clause : Clause

def Pending.ofTerm (conjunction : Conjunction) (query : Query) (operator : Operator) : Pending :=
  ⟨conjunction, ⟨initialOccurrence operator conjunction, query⟩⟩

/-- The clauses so far, the newest first. -/
structure Fold where
  newestFirst : List Pending := []

namespace Fold

/-- Stands in front of a leading negation, because prohibited clauses alone match nothing. -/
def everything : Pending := ⟨.none, ⟨.optional, .matchAll⟩⟩

def add (fold : Fold) (conjunction : Conjunction) (query : Query) (operator : Operator) : Fold :=
  let added := Pending.ofTerm conjunction query operator
  match fold.newestFirst with
  | [] => ⟨if added.clause.occurrence = .prohibited then [added, everything] else [added]⟩
  | ⟨previous, clause⟩ :: older =>
    ⟨added :: ⟨previous, ⟨revise clause.occurrence previous conjunction, clause.query⟩⟩ :: older⟩

/-- The clauses in the order of arrival. -/
def clauses (fold : Fold) : List Clause := (fold.newestFirst.map Pending.clause).reverse

def size (fold : Fold) : Nat := fold.newestFirst.length

def occurrences (fold : Fold) : List Occurrence := fold.clauses.map Clause.occurrence

/-- The folded clauses as a query; absent when there are none. -/
def query? (fold : Fold) : Option Query :=
  if fold.newestFirst.isEmpty then none else some (.boolean fold.clauses)

/-- Without clauses everything matches. -/
def query (fold : Fold) : Query := fold.query?.getD .matchAll

end Fold
end Search
end FieldQuery
