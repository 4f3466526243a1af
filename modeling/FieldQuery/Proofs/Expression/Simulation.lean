import FieldQuery.Proofs.Expression.Forest
import FieldQuery.Proofs.Pass.Reached

/-!
A pass that is fed the steps of an expression does what folding the expression into its innermost
level does: the stack of open groups is the recursion into groups, laid out in time. No step is
refused, and nothing but the innermost level is different afterwards.
-/

namespace FieldQuery
namespace Expression

variable {α : Type} {queries : Queries α}

theorem fits_addItems {dialect : Dialect} (items : List (Item α)) {level : Level}
    (fits : level.clauses.Fits dialect) :
    (addItems dialect queries level items).clauses.Fits dialect := by
  induction items using forest_induction generalizing level with
  | nil => exact fits
  | term conjunction atom operator items ih => exact ih (Level.fits_add fits _ _ _)
  | group conjunction inner items ihInner ih => exact ih (Level.fits_add fits _ _ _)

def Placed (level : Level) (items : List (Item α)) : Prop :=
  (∀ item ∈ items.head?, level.refusal? item.conjunction = none) ∧ NoneFirst items

theorem Placed.head {level : Level} {item : Item α} {items : List (Item α)}
    (placed : Placed level (item :: items)) : level.refusal? item.conjunction = none :=
  placed.1 item rfl

theorem Placed.tail {level next : Level} {item : Item α} {items : List (Item α)}
    (placed : Placed level (item :: items)) : Placed next items := by
  -- NONE is the only conjunction that a level refuses, so what the level has seen is of no account.
  have named : ∀ other ∈ items, other.conjunction ≠ .none := placed.2
  refine ⟨fun other mem => ?_, fun other mem => named other (List.mem_of_mem_tail mem)⟩
  rw [Level.refusal?_eq_none_iff]
  exact fun none => absurd none (named other (List.mem_of_mem_head? mem))

theorem placed_start (dialect : Dialect) {items : List (Item α)} (first : NoneFirst items) :
    Placed (.start dialect) items :=
  ⟨fun _ _ => (Level.refusal?_eq_none_iff _ _).mpr fun _ => rfl, first⟩

theorem runsTo_group {resolver : Resolver} {pass : Pass} {conjunction : Conjunction}
    {inner : List (Item α)} {level : Level} (fit : Pass.LevelsFit pass)
    (placed : pass.current.refusal? conjunction = none)
    (fits : level.clauses.Fits pass.settings.dialect)
    (body : Pass.RunsTo resolver (pass.push conjunction (.start pass.settings.dialect))
      (steps queries inner) (pass.push conjunction level)) :
    Pass.RunsTo resolver pass (itemSteps queries (.group conjunction inner))
      (pass.setCurrent (pass.current.add conjunction level.clauses.group? .equal).state) := by
  have family : ∀ q, level.clauses.group? = some q → q.family = pass.settings.dialect.family :=
    fun q group => (Level.Clauses.family_of_group? group).trans fits.family_eq
  have opened : pass.step resolver (.openGroup conjunction) =
      ⟨pass.push conjunction (.start pass.settings.dialect), none⟩ :=
    Pass.openGroup_eq_push placed
  have closed : (pass.push conjunction level).step resolver .closeGroup =
      ⟨pass.setCurrent (pass.current.add conjunction level.clauses.group? .equal).state, none⟩ := by
    rw [Pass.step, Pass.closeGroup_push]
    exact Pass.addClause_accepted fit placed family .equal
  rw [itemSteps]
  exact .cons opened (body.append (.cons closed Pass.runsTo_nil))

theorem runsTo_steps (resolver : Resolver) (items : List (Item α)) {pass : Pass}
    (fit : Pass.LevelsFit pass) (placed : Placed pass.current items)
    (inner : innerLevels NoneFirst items)
    (family : EveryLevel (OfFamily pass.settings.dialect.family queries) items) :
    Pass.RunsTo resolver pass (steps queries items)
      (pass.setCurrent (addItems pass.settings.dialect queries pass.current items)) := by
  -- The invariant of the run is that every level fits the dialect; the open groups below the
  -- current one are never looked at, so the hypothesis for a group applies to the pushed pass.
  induction items using forest_induction generalizing pass with
  | nil =>
      rw [addItems, Pass.setCurrent_current]
      exact Pass.runsTo_nil
  | term conjunction atom operator items ih =>
      have own : ∀ q, queries atom operator = some q → q.family = pass.settings.dialect.family :=
        family.1 conjunction atom operator (List.mem_cons_self ..)
      have first : pass.step resolver (.addClause conjunction (queries atom operator) operator) =
          ⟨pass.setCurrent (pass.current.add conjunction (queries atom operator) operator).state,
            none⟩ :=
        Pass.addClause_accepted fit placed.head own operator
      have rest := ih (fit.setCurrent (Level.fits_add fit.current conjunction
          (queries atom operator) operator)) placed.tail (innerLevels_term.mp inner)
        (by simpa using ⟨family.1.tail, innerLevels_term.mp family.2⟩)
      rw [steps, itemSteps, addItems, addItem]
      exact .cons first (by simpa using rest)
  | group conjunction group items ihGroup ih =>
      obtain ⟨groupPlaced, innerPlaced⟩ := innerLevels_group.mp inner
      obtain ⟨groupFamily, innerFamily⟩ := innerLevels_group.mp family.2
      have fresh : (Level.start pass.settings.dialect).clauses.Fits pass.settings.dialect :=
        Level.Clauses.fits_empty _
      have body := ihGroup (fit.push conjunction fresh) (placed_start _ groupPlaced.1)
        groupPlaced.2 groupFamily
      have opens : pass.current.refusal? conjunction = none := placed.head
      have first := runsTo_group fit opens (fits_addItems group fresh) (by simpa using body)
      have rest := ih (fit.setCurrent (Level.fits_add fit.current conjunction
          (addItems pass.settings.dialect queries (.start pass.settings.dialect)
            group).clauses.group? .equal)) placed.tail innerPlaced
        (by simpa using ⟨family.1.tail, innerFamily⟩)
      rw [steps, addItems, addItem]
      exact first.append (by simpa using rest)

/-- An expression compiled by recursion into its groups, without order and paging. -/
def compiled (settings : Settings) (queries : Queries α) (items : List (Item α)) : Compiled :=
  match (addItems settings.dialect queries (.start settings.dialect) items).clauses with
  | .relational dialect clauses => .relational
      { dialect, preamble := settings.preamble, clauses, sort := [], startIndex := none,
        limit := none }
  | .search fold => .search { query := fold.query, sort := [], startIndex := none, limit := none }

theorem finish_setCurrent_start (settings : Settings) (items : List (Item α)) :
    ((Pass.start settings).setCurrent
      (addItems settings.dialect queries (.start settings.dialect) items)).finish =
        .ok (compiled settings queries items) := by
  change Pass.finish { Pass.start settings with
    root := addItems settings.dialect queries (.start settings.dialect) items } = _
  cases h : (addItems settings.dialect queries (.start settings.dialect) items).clauses <;>
    simp [Pass.finish, Pass.start, compiled, h]

/-- Whatever happened before, the steps of an expression are all accepted and leave the pass as it
was but for the innermost level, which has taken in the items of the expression, groups compiled on
their own. A fresh pass therefore ends with the expression compiled by recursion. -/
theorem run_steps_eq_addItems {settings : Settings} {pass : Pass}
    (reached : Pass.Reached settings pass) (resolver : Resolver) (items : List (Item α))
    (noneFirst : EveryLevel NoneFirst items)
    (untouched : 0 < pass.current.termsSeen → ∀ item ∈ items.head?, item.conjunction ≠ .none)
    (family : EveryLevel (OfFamily settings.dialect.family queries) items) :
    let after := pass.setCurrent (addItems settings.dialect queries pass.current items)
    pass.run resolver (steps queries items) =
        (after, List.replicate (steps queries items).length none) ∧
      after.current = addItems settings.dialect queries pass.current items ∧
      Pass.SameAround pass after ∧
      ((Pass.start settings).run resolver (steps queries items)).1.finish =
        .ok (compiled settings queries items) := by
  have placed : Placed pass.current items := by
    refine ⟨fun item mem => (Level.refusal?_eq_none_iff _ _).mpr fun none => ?_, noneFirst.1⟩
    obtain unseen | seen := Nat.eq_zero_or_pos pass.current.termsSeen
    · exact unseen
    · exact absurd none (untouched seen item mem)
  have run := runsTo_steps resolver items reached.levelsFit placed noneFirst.2
    (by rwa [reached.dialect_eq])
  have fresh := runsTo_steps resolver items (Pass.LevelsFit.start settings)
    (placed_start settings.dialect noneFirst.1) noneFirst.2 family
  rw [reached.dialect_eq] at run
  refine ⟨run, Pass.current_setCurrent _ _, Pass.sameAround_setCurrent _ _, ?_⟩
  rw [fresh]
  exact finish_setCurrent_start settings items

/-- A term, and a group that is taken away, with an empty group inside it. -/
def sampleItems : List (Item String) :=
  [.term .and "a" .equal,
   .group .not [.term .none "b" .equal, .group .and [], .term .or "c" .notEqual]]

def codeMatches : Queries String := fun value _ =>
  if value = "" then none else some (.search (.phrase "code" [value]))

theorem noneFirst_sampleItems : EveryLevel NoneFirst sampleItems := by
  simp [EveryLevel, innerLevels, itemLevels, NoneFirst, Item.conjunction, sampleItems]

theorem ofFamily_codeMatches (items : List (Item String)) :
    EveryLevel (OfFamily .search codeMatches) items := by
  have all : ∀ level, OfFamily .search codeMatches level := by
    intro level conjunction atom operator _ query given
    simp only [codeMatches] at given
    split at given
    · cases given
    · cases given
      rfl
  exact ⟨all items, innerLevels_of_forall all items⟩

/-- The state is one in the middle of a pass: two groups are open, and the inner one has seen a
term. -/
theorem run_steps_eq_addItems_sample :
    let resolver := ({} : FieldTable).resolve
    let pass := ((Pass.ofDialect .search).run resolver
      [.openGroup .none, .openGroup .not, .addClause .none none .equal]).1
    0 < pass.current.termsSeen ∧ pass.groups.length = 2 ∧
      pass.run resolver (steps codeMatches sampleItems) =
        (pass.setCurrent (addItems .search codeMatches pass.current sampleItems),
          [none, none, none, none, none, none, none]) ∧
      ((Pass.ofDialect .search).run resolver (steps codeMatches sampleItems)).1.finish =
        .ok (compiled {} codeMatches sampleItems) := by
  intro resolver pass
  have reached : Pass.Reached {} pass := Pass.Reached.start.run resolver _
  have result := run_steps_eq_addItems reached resolver sampleItems noneFirst_sampleItems
    (fun _ item mem => by cases mem; decide) (ofFamily_codeMatches sampleItems)
  exact ⟨by decide, rfl, result.1, result.2.2.2⟩

end Expression
end FieldQuery
