import FieldQuery.Term
import FieldQuery.Value

/-!
Query trees of the relational dialects. Clauses keep the order in which they arrived, each with the
conjunction that joins it to the one before. A row, which is known by the comparisons and
memberships that hold of it, gives a tree its meaning. A single term becomes a comparison with one
literal, or membership in a list of them.
-/

namespace FieldQuery
namespace Relational

inductive Literal where
  | string (value : String)
  /-- Checked before, and kept exactly as written. -/
  | number (digits : String)
  | boolean (value : Bool)
  | date (date : Calendar.Date)
  | moment (moment : Calendar.Moment)
  deriving DecidableEq

mutual

inductive Query where
  | comparison (field : String) (operator : Operator) (literal : Literal)
  | inList (field : String) (negated : Bool) (literals : List Literal)
  /-- A sub-expression in parentheses. -/
  | group (clauses : List Clause)

structure Clause where
  conjunction : Conjunction
  query : Query

end

structure Row where
  comparison : String → Operator → Literal → Bool
  membership : String → Bool → List Literal → Bool

mutual

def Row.satisfies (row : Row) : Query → Bool
  | .comparison field operator literal => row.comparison field operator literal
  | .inList field negated literals => row.membership field negated literals
  | .group clauses => row.satisfiesAll clauses

/-- The condition that a list of clauses spells out. Without clauses nothing is filtered. -/
def Row.satisfiesAll (row : Row) : List Clause → Bool
  | [] => true
  | ⟨conjunction, query⟩ :: clauses =>
    row.satisfiesAfter ((conjunction == .not) != row.satisfies query) clauses

/-- `sofar` is the value of the run of clauses that AND has joined up to here; OR ends it. -/
def Row.satisfiesAfter (row : Row) (sofar : Bool) : List Clause → Bool
  | [] => sofar
  | ⟨.or, query⟩ :: clauses => sofar || row.satisfiesAfter (row.satisfies query) clauses
  | ⟨.not, query⟩ :: clauses => row.satisfiesAfter (sofar && !row.satisfies query) clauses
  | ⟨_, query⟩ :: clauses => row.satisfiesAfter (sofar && row.satisfies query) clauses

end

def Literal.ofValue (field : String) (type : FieldType) (value : String) :
    Except Error Literal :=
  match type with
  | .string | .text | .enum => .ok (.string value)
  | .integer | .float | .decimal => (Value.number field type value).map .number
  | .boolean => (Value.boolean field value).map .boolean
  | .date => (Value.date field value).map .date
  | .dateTime => (Value.moment field value).map .moment

/-- Membership has no order, so only equality and inequality take several values. -/
def Query.ofValues (term : ResolvedTerm) (operator : Operator) : Except Error Query :=
  if operator.isOrdering then .error term.tooManyValues
  else do
    let literals ← term.values.mapM (Literal.ofValue term.field term.type)
    return .inList term.field (operator == .notEqual) literals

def Query.ofSingleValue (term : ResolvedTerm) (operator : Operator) : Except Error Query := do
  let value ← term.singleValue
  let literal ← Literal.ofValue term.field term.type value
  return .comparison term.field operator literal

def Query.ofTerm (term : ResolvedTerm) (operator : Operator) : Except Error Query := do
  term.checkCount
  if term.values.length > 1 then Query.ofValues term operator
  else Query.ofSingleValue term operator

end Relational
end FieldQuery
