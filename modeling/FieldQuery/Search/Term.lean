import FieldQuery.Search.Query
import FieldQuery.Term
import FieldQuery.Text.Lowercase
import FieldQuery.Value

/-!
Single terms as search queries. Ordering operators become one-sided ranges; equality and inequality
become exact matches, whose sign is left to the clause that the match ends up in. Of free text a
match keeps what a search index makes of it: the maximal runs of alphanumeric characters, each in
lower case on its own, without the stop words. Text made of stop words only leaves nothing.
-/

namespace FieldQuery
namespace Search

def stopWords : List String :=
  ["a", "an", "and", "are", "as", "at", "be", "but", "by", "for", "if", "in", "into", "is", "it",
   "no", "not", "of", "on", "or", "such", "that", "the", "their", "then", "there", "these", "they",
   "this", "to", "was", "will", "with"]

/-- The pieces between separators, empty ones included; there is always at least one. -/
def pieces (isSeparator : Char → Bool) : List Char → List (List Char)
  | [] => [[]]
  | c :: cs =>
    if isSeparator c then [] :: pieces isSeparator cs
    else match pieces isSeparator cs with
      | [] => [[c]]
      | piece :: rest => (c :: piece) :: rest

def words (cs : List Char) : List (List Char) :=
  (pieces (fun c => !Text.isAlphanumeric c) cs).filter fun word => !word.isEmpty

def isStopWord (word : List Char) : Bool := stopWords.any fun stop => stop.toList == word

def analyzeChars (cs : List Char) : List (List Char) :=
  ((words cs).map Text.lowercase).filter fun word => !isStopWord word

def analyze (text : String) : List String := (analyzeChars text.toList).map String.ofList

def boundsAbove : Operator → Bool
  | .less | .lessOrEqual => true
  | _ => false

/-- Whether a range is possible at all depends on operator and type alone, and is decided before the
values are looked at. -/
def Range.ofTerm (pattern : String) (term : ResolvedTerm) (operator : Operator) :
    Except Error Range :=
  if !operator.isOrdering || !term.type.isOrdered then
    .error (.unsupportedRange term.field term.type operator)
  else do
    let value ← term.singleValue
    let bound ← Value.indexed pattern term.field term.type value
    if boundsAbove operator then return ⟨term.field, none, some bound, operator.isInclusive⟩
    else return ⟨term.field, some bound, none, operator.isInclusive⟩

/-- The tokens that a value is matched by: those of its analysis on an analyzed field, its indexed
form on an ordered one, and otherwise the value itself. -/
def matchTokens (pattern : String) (term : ResolvedTerm) (value : String) :
    Except Error (List String) :=
  if term.descriptor.analyzed then .ok (analyze value)
  else if term.type.isOrdered then do
    let token ← Value.indexed pattern term.field term.type value
    return [token]
  else .ok [value]

/-- Values without tokens are passed over; when none is left there is nothing to match. -/
def matchAny? (field : String) (tokens : List (List String)) : Option Query :=
  match (tokens.filter fun ts => !ts.isEmpty).map (Query.phrase field) with
  | [] => none
  | [query] => some query
  | queries => some (.anyOf queries)

/-- No query means that the term vanished, as a term of stop words does. -/
def Query.ofTerm? (pattern : String) (term : ResolvedTerm) (operator : Operator) :
    Except Error (Option Query) := do
  term.checkCount
  if operator.isOrdering then
    let range ← Range.ofTerm pattern term operator
    return some (.range range)
  else
    let tokens ← term.values.mapM (matchTokens pattern term)
    return matchAny? term.field tokens

end Search
end FieldQuery
