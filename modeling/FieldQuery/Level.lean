import FieldQuery.Relational.Query
import FieldQuery.Search.Fold
import FieldQuery.Search.Term
import FieldQuery.Settings

/-!
One level of an expression: the terms between two parentheses, or those outside all of them. A level
counts the terms offered to it, also those of which nothing is left, and collects the clauses of its
family. A compiled term or group belongs to one of the two families of dialects.
-/

namespace FieldQuery

inductive FamilyQuery where
  | relational (query : Relational.Query)
  | search (query : Search.Query)

namespace FamilyQuery

def family : FamilyQuery → Family
  | .relational _ => .relational
  | .search _ => .search

/-- Compiles a resolved term for the dialect of the settings; a search may leave nothing of it. -/
def ofTerm? (settings : Settings) (term : ResolvedTerm) (operator : Operator) :
    Except Error (Option FamilyQuery) :=
  match settings.dialect.family with
  | .relational => (Relational.Query.ofTerm term operator).map fun q => some (.relational q)
  | .search => (Search.Query.ofTerm? settings.datePattern term operator).map (·.map .search)

end FamilyQuery

/-- The state after a step and, when the step was refused, the reason. -/
structure Reply (σ : Type) where
  state : σ
  refusal : Option Error

namespace Level

inductive Clauses where
  | relational (dialect : RelationalDialect) (clauses : List Relational.Clause)
  | search (fold : Search.Fold)

namespace Clauses

def empty (dialect : Dialect) : Clauses :=
  match dialect.relational? with
  | some kind => .relational kind []
  | none => .search {}

def family : Clauses → Family
  | .relational _ _ => .relational
  | .search _ => .search

def size : Clauses → Nat
  | .relational _ clauses => clauses.length
  | .search fold => fold.size

/-- Adds a query of the same family. -/
def add? (clauses : Clauses) (conjunction : Conjunction) (query : FamilyQuery)
    (operator : Operator) : Option Clauses :=
  match clauses, query with
  | .relational dialect clauses, .relational query =>
    some (.relational dialect (clauses ++ [⟨conjunction, query⟩]))
  | .search fold, .search query => some (.search (fold.add conjunction query operator))
  | .relational _ _, .search _ | .search _, .relational _ => none

/-- The clauses as one query; absent when there are none. -/
def group? : Clauses → Option FamilyQuery
  | .relational _ [] => none
  | .relational _ (clause :: clauses) => some (.relational (.group (clause :: clauses)))
  | .search fold => fold.query?.map .search

end Clauses
end Level

structure Level where
  termsSeen : Nat
  clauses : Level.Clauses

namespace Level

def start (dialect : Dialect) : Level := ⟨0, .empty dialect⟩

/-- The conjunction NONE is refused on every term but the first. -/
def refusal? (level : Level) (conjunction : Conjunction) : Option Error :=
  if conjunction = .none ∧ 0 < level.termsSeen then some .misplacedConjunction else none

/-- Takes the next term in. A term without a query is counted and leaves no clause; so does a query
of the other family, which is refused after it was counted. -/
def add (level : Level) (conjunction : Conjunction) (query : Option FamilyQuery)
    (operator : Operator) : Reply Level :=
  match level.refusal? conjunction with
  | some error => ⟨level, some error⟩
  | none =>
    let seen := level.termsSeen + 1
    match query with
    | none => ⟨⟨seen, level.clauses⟩, none⟩
    | some query =>
      match level.clauses.add? conjunction query operator with
      | some clauses => ⟨⟨seen, clauses⟩, none⟩
      | none =>
        ⟨⟨seen, level.clauses⟩, some (.dialectMismatch level.clauses.family query.family)⟩

end Level
end FieldQuery
