import FieldQuery.Pass

/-!
Expressions as trees. A tree is written down from left to right as the steps of a pass, and it can
be folded into a level directly, group by group. What a term stands for is left open: an atom has
a query under each operator.
-/

namespace FieldQuery

inductive Item (α : Type) where
  | term (conjunction : Conjunction) (atom : α) (operator : Operator)
  | group (conjunction : Conjunction) (items : List (Item α))

namespace Expression

/-- The query of an atom under an operator, which may be none. -/
abbrev Queries (α : Type) := α → Operator → Option FamilyQuery

variable {α : Type}

mutual

def itemSteps (queries : Queries α) : Item α → List Pass.Step
  | .term conjunction atom operator => [.addClause conjunction (queries atom operator) operator]
  | .group conjunction items => .openGroup conjunction :: steps queries items ++ [.closeGroup]

/-- The steps that read the items from left to right. -/
def steps (queries : Queries α) : List (Item α) → List Pass.Step
  | [] => []
  | item :: items => itemSteps queries item ++ steps queries items

end

mutual

/-- Adds an item to a level; a group becomes the query of a fresh level that took its items. -/
def addItem (dialect : Dialect) (queries : Queries α) (level : Level) : Item α → Level
  | .term conjunction atom operator =>
    (level.add conjunction (queries atom operator) operator).state
  | .group conjunction items =>
    let inner := addItems dialect queries (.start dialect) items
    (level.add conjunction inner.clauses.group? .equal).state

def addItems (dialect : Dialect) (queries : Queries α) (level : Level) : List (Item α) → Level
  | [] => level
  | item :: items => addItems dialect queries (addItem dialect queries level item) items

end

end Expression
end FieldQuery
