/-!
Comparison operators of a term, with the token that stands for each in relational text and the name
used when a message speaks of one; how a term combines with the term before it; and the polarity
that operator and conjunction give it together.
-/

namespace FieldQuery

inductive Operator where
  | equal
  | notEqual
  | less
  | lessOrEqual
  | more
  | moreOrEqual
  deriving DecidableEq

namespace Operator

def isOrdering : Operator → Bool
  | .equal | .notEqual => false
  | .less | .lessOrEqual | .more | .moreOrEqual => true

/-- The bound itself satisfies the comparison. -/
def isInclusive : Operator → Bool
  | .lessOrEqual | .moreOrEqual => true
  | .equal | .notEqual | .less | .more => false

def token : Operator → String
  | .equal => "="
  | .notEqual => "<>"
  | .less => "<"
  | .lessOrEqual => "<="
  | .more => ">"
  | .moreOrEqual => ">="

/-- Reads a token without surrounding blanks; inequality has two spellings. -/
def ofToken? : String → Option Operator
  | "=" => some .equal
  | "!=" | "<>" => some .notEqual
  | "<" => some .less
  | "<=" => some .lessOrEqual
  | ">" => some .more
  | ">=" => some .moreOrEqual
  | _ => none

def name : Operator → String
  | .equal => "Equal"
  | .notEqual => "NotEqual"
  | .less => "Less"
  | .lessOrEqual => "LessOrEqual"
  | .more => "More"
  | .moreOrEqual => "MoreOrEqual"

end Operator

inductive Conjunction where
  /-- Nothing stands before the term: it opens an expression or a group. -/
  | none
  | and
  | or
  | not
  deriving DecidableEq

def Conjunction.ofCode? : Nat → Option Conjunction
  | 0 => some .none
  | 1 => some .and
  | 2 => some .or
  | 3 => some .not
  | _ => Option.none

inductive Polarity where
  | positive
  | negative
  deriving DecidableEq

/-- Inequality and the conjunction NOT negate; both together cancel out. -/
def Polarity.of (operator : Operator) (conjunction : Conjunction) : Polarity :=
  if (operator == .notEqual) != (conjunction == .not) then .negative else .positive

end FieldQuery
