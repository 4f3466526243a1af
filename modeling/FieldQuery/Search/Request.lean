import FieldQuery.Field
import FieldQuery.Search.Query
import FieldQuery.Text.Reading

/-!
Search queries in query-parser syntax. Phrases always stand in quotes; a range bound only where it
would otherwise be misread. Boolean queries inside others stand in parentheses. A finished search is
the query and what the engine is told beside it.
-/

namespace FieldQuery
namespace Search

def Occurrence.mark : Occurrence → List Char
  | .required => ['+']
  | .prohibited => ['-']
  | .optional => []

def escapePhrase (cs : List Char) : List Char :=
  cs.flatMap fun c => if c = '\\' ∨ c = '"' then ['\\', c] else [c]

/-- Characters that would end a bare bound early or change its meaning. -/
def isBoundSpecial (c : Char) : Bool :=
  Text.isBlank c || ['"', '\\', '[', ']', '\x7b', '\x7d'].contains c

/-- A bare star stands for an absent bound, so the bound that is a star has to be quoted. -/
def needsQuotes (cs : List Char) : Bool :=
  cs.isEmpty || cs == ['*'] || cs.any isBoundSpecial

def boundChars : Option String → List Char
  | none => ['*']
  | some bound =>
    if needsQuotes bound.toList then '"' :: escapePhrase bound.toList ++ ['"'] else bound.toList

def Range.chars (r : Range) : List Char :=
  r.field.toList ++ ':' :: (if r.inclusive then '[' else '\x7b') :: boundChars r.lower
    ++ " TO ".toList ++ boundChars r.upper ++ [if r.inclusive then ']' else '\x7d']

def phraseChars (field : String) (terms : List String) : List Char :=
  field.toList ++ ':' :: '"' :: [' '].intercalate (terms.map fun t => escapePhrase t.toList)
    ++ ['"']

mutual

def Query.chars : Query → List Char
  | .matchAll => ['*', ':', '*']
  | .phrase field terms => phraseChars field terms
  | .range range => range.chars
  | .boolean clauses => [' '].intercalate (clauseChars clauses)

def clauseChars : List Clause → List (List Char)
  | [] => []
  | ⟨occurrence, query⟩ :: clauses =>
    (occurrence.mark ++ if query.isBoolean then '(' :: query.chars ++ [')'] else query.chars)
      :: clauseChars clauses

end

def Query.text (q : Query) : String := String.ofList q.chars

def Range.text (r : Range) : String := String.ofList r.chars

structure Request where
  query : Query
  sort : List SortClause
  startIndex : Option Nat
  limit : Option Nat

def sortKeyword : SortDirection → String
  | .ascending => "asc"
  | .descending => "desc"

def sortChars (sort : List SortClause) : List Char :=
  [','].intercalate (sort.map fun s => s.field.toList ++ ' ' :: (sortKeyword s.direction).toList)

/-- The sort parameter; absent when no order is asked for. -/
def Request.sortParameter? (r : Request) : Option String :=
  if r.sort.isEmpty then none else some (String.ofList (sortChars r.sort))

end Search
end FieldQuery
