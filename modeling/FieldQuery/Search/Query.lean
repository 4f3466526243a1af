/-!
Query trees of a search index. A boolean query is a flat list of clauses, each with an occurrence
that says how it takes part in the whole. A document, which is known by the phrases and ranges that
it satisfies, gives a tree its meaning.
-/

namespace FieldQuery
namespace Search

inductive Occurrence where
  | required
  | prohibited
  | optional
  deriving DecidableEq

/-- Values between two bounds, both of them inclusive or both exclusive. An absent bound leaves its
side open. -/
structure Range where
  field : String
  lower : Option String
  upper : Option String
  inclusive : Bool
  deriving DecidableEq

mutual

inductive Query where
  | matchAll
  /-- Tokens that appear in this order; a single token is a plain match. -/
  | phrase (field : String) (terms : List String)
  | range (range : Range)
  | boolean (clauses : List Clause)

structure Clause where
  occurrence : Occurrence
  query : Query

end

namespace Query

/-- Matches when one of the queries does. -/
def anyOf (queries : List Query) : Query := .boolean (queries.map fun q => ⟨.optional, q⟩)

def isMatchAll : Query → Bool
  | .matchAll => true
  | _ => false

def isBoolean : Query → Bool
  | .boolean _ => true
  | _ => false

end Query

structure Document where
  phrase : String → List String → Bool
  range : Range → Bool

mutual

/-- A boolean query matches when every required clause does, no prohibited one does, and there is a
required clause or a matching optional one. -/
def Document.satisfies (document : Document) : Query → Bool
  | .matchAll => true
  | .phrase field terms => document.phrase field terms
  | .range range => document.range range
  | .boolean clauses =>
    document.satisfiesRequired clauses && document.avoidsProhibited clauses
      && document.hasSupport clauses

def Document.satisfiesRequired (document : Document) : List Clause → Bool
  | [] => true
  | ⟨.required, query⟩ :: clauses =>
    document.satisfies query && document.satisfiesRequired clauses
  | _ :: clauses => document.satisfiesRequired clauses

def Document.avoidsProhibited (document : Document) : List Clause → Bool
  | [] => true
  | ⟨.prohibited, query⟩ :: clauses =>
    !document.satisfies query && document.avoidsProhibited clauses
  | _ :: clauses => document.avoidsProhibited clauses

def Document.hasSupport (document : Document) : List Clause → Bool
  | [] => false
  | ⟨.required, _⟩ :: _ => true
  | ⟨.optional, query⟩ :: clauses => document.satisfies query || document.hasSupport clauses
  | ⟨.prohibited, _⟩ :: clauses => document.hasSupport clauses

end

end Search
end FieldQuery
