import FieldQuery.Expression

/-!
Expressions as forests: induction over all items at every depth, and properties that every level of
an expression has, the outermost one and that of each group.
-/

namespace FieldQuery

def Item.conjunction {α : Type} : Item α → Conjunction
  | .term conjunction _ _ | .group conjunction _ => conjunction

namespace Expression

variable {α : Type}

@[elab_as_elim]
theorem forest_induction {motive : List (Item α) → Prop} (nil : motive [])
    (term : ∀ conjunction atom operator items, motive items →
      motive (.term conjunction atom operator :: items))
    (group : ∀ conjunction inner items, motive inner → motive items →
      motive (.group conjunction inner :: items)) :
    ∀ items, motive items
  | [] => nil
  | .term conjunction atom operator :: items =>
      term conjunction atom operator items (forest_induction nil term group items)
  | .group conjunction inner :: items =>
      group conjunction inner items (forest_induction nil term group inner)
        (forest_induction nil term group items)

mutual

/-- The level of a group has the property, and so have the levels inside it. -/
def itemLevels (P : List (Item α) → Prop) : Item α → Prop
  | .term _ _ _ => True
  | .group _ items => P items ∧ innerLevels P items

def innerLevels (P : List (Item α) → Prop) : List (Item α) → Prop
  | [] => True
  | item :: items => itemLevels P item ∧ innerLevels P items

end

def EveryLevel (P : List (Item α) → Prop) (items : List (Item α)) : Prop :=
  P items ∧ innerLevels P items

theorem innerLevels_term {P : List (Item α) → Prop} {conjunction : Conjunction} {atom : α}
    {operator : Operator} {items : List (Item α)} :
    innerLevels P (.term conjunction atom operator :: items) ↔ innerLevels P items := by
  simp [innerLevels, itemLevels]

theorem innerLevels_group {P : List (Item α) → Prop} {conjunction : Conjunction}
    {inner items : List (Item α)} :
    innerLevels P (.group conjunction inner :: items) ↔
      EveryLevel P inner ∧ innerLevels P items := by
  simp [innerLevels, itemLevels, EveryLevel]

theorem innerLevels_of_forall {P : List (Item α) → Prop} (h : ∀ items, P items)
    (items : List (Item α)) : innerLevels P items := by
  induction items using forest_induction with
  | nil => trivial
  | term conjunction atom operator items ih => exact innerLevels_term.mpr ih
  | group conjunction inner items ihInner ih =>
      exact innerLevels_group.mpr ⟨⟨h inner, ihInner⟩, ih⟩

/-- Only the first item may come with NONE. -/
def NoneFirst (level : List (Item α)) : Prop :=
  ∀ item ∈ level.tail, item.conjunction ≠ .none

/-- The terms of a level, those in its groups left aside, have no query of the other family. -/
def OfFamily (family : Family) (queries : Queries α) (level : List (Item α)) : Prop :=
  ∀ conjunction atom operator, .term conjunction atom operator ∈ level →
    ∀ query, queries atom operator = some query → query.family = family

theorem OfFamily.tail {family : Family} {queries : Queries α} {item : Item α}
    {items : List (Item α)} (h : OfFamily family queries (item :: items)) :
    OfFamily family queries items :=
  fun conjunction atom operator mem => h conjunction atom operator (List.mem_cons_of_mem _ mem)

end Expression
end FieldQuery
