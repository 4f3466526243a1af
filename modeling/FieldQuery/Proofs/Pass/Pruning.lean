import FieldQuery.Proofs.Pass.Refusals
import Mathlib.Data.List.Forall2
import Mathlib.Logic.Relation

/-!
Steps that leave nothing behind. A term without a query is counted and no more, and a group in which
nothing was collected is such a term for the level around it. Without them a pass sees fewer terms
and collects the same clauses. Only the conjunction NONE looks at the number of terms, and it is
content with fewer, so that a script is accepted without them as well and ends with the same query.
-/

namespace FieldQuery

namespace Level

/-- The same clauses after no more terms. -/
structure Leaner (lean full : Level) : Prop where
  clauses : lean.clauses = full.clauses
  termsSeen : lean.termsSeen ≤ full.termsSeen

namespace Leaner

variable {lean full : Level}

theorem refl (level : Level) : level.Leaner level := ⟨rfl, Nat.le_refl _⟩

theorem placed (h : lean.Leaner full) {conjunction : Conjunction}
    (free : full.refusal? conjunction = none) : lean.refusal? conjunction = none := by
  rw [refusal?_eq_none_iff] at free ⊢
  intro none
  have unseen := free none
  have fewer := h.termsSeen
  omega

theorem add (h : lean.Leaner full) {conjunction : Conjunction} {query : Option FamilyQuery}
    {operator : Operator} (accepted : (full.add conjunction query operator).refusal = none) :
    (lean.add conjunction query operator).refusal = none ∧
      (lean.add conjunction query operator).state.Leaner
        (full.add conjunction query operator).state := by
  have more : lean.termsSeen + 1 ≤ full.termsSeen + 1 := Nat.succ_le_succ h.termsSeen
  obtain ⟨-, eq⟩ | ⟨free, rfl, eq⟩ | ⟨q, clauses, free, rfl, taken, eq⟩ | ⟨q, -, -, -, eq⟩ :=
    full.add_cases conjunction query operator <;> rw [eq] at accepted ⊢
  · cases accepted
  · simp only [Level.add, h.placed free]
    exact ⟨trivial, h.clauses, more⟩
  · simp only [Level.add, h.placed free, h.clauses, taken]
    exact ⟨trivial, rfl, more⟩
  · cases accepted

end Leaner
end Level

namespace Pass

/-- The same pass but for the number of terms that its levels have seen, which is no greater. -/
structure Leaner (lean full : Pass) : Prop where
  settings : lean.settings = full.settings
  sort : lean.sort = full.sort
  startIndex : lean.startIndex = full.startIndex
  limit : lean.limit = full.limit
  root : lean.root.Leaner full.root
  groups : List.Forall₂ (fun a b => a.conjunction = b.conjunction ∧ a.level.Leaner b.level)
    lean.groups full.groups

namespace Leaner

variable {lean full : Pass}

theorem refl (pass : Pass) : Leaner pass pass :=
  ⟨rfl, rfl, rfl, rfl, .refl _, List.forall₂_same.mpr fun _ _ => ⟨rfl, .refl _⟩⟩

theorem current (h : Leaner lean full) : lean.current.Leaner full.current := by
  obtain ⟨_, _, groups, _, _, _⟩ := lean
  obtain ⟨_, _, groups', _, _, _⟩ := full
  have groups := h.groups
  cases groups with
  | nil => exact h.root
  | cons innermost _ => exact innermost.2

theorem setCurrent (h : Leaner lean full) {level level' : Level} (leaner : level.Leaner level') :
    Leaner (lean.setCurrent level) (full.setCurrent level') := by
  obtain ⟨_, _, groups, _, _, _⟩ := lean
  obtain ⟨_, _, groups', _, _, _⟩ := full
  obtain ⟨rfl, rfl, rfl, rfl, root, groups⟩ := h
  cases groups with
  | nil => exact ⟨rfl, rfl, rfl, rfl, leaner, .nil⟩
  | cons innermost outer =>
      exact ⟨rfl, rfl, rfl, rfl, root, .cons ⟨innermost.1, leaner⟩ outer⟩

theorem push (h : Leaner lean full) (conjunction : Conjunction) {level level' : Level}
    (leaner : level.Leaner level') :
    Leaner (lean.push conjunction level) (full.push conjunction level') :=
  { h with groups := .cons ⟨rfl, leaner⟩ h.groups }

theorem exists_push {conjunction : Conjunction} {level : Level}
    (h : Leaner lean (full.push conjunction level)) :
    ∃ outer level', lean = outer.push conjunction level' ∧ Leaner outer full ∧
      level'.Leaner level := by
  obtain ⟨settings, root, groups, sort, startIndex, limit⟩ := lean
  have groups := h.groups
  cases groups with
  | @cons group _ outer _ innermost others =>
      obtain ⟨rfl, leaner⟩ := innermost
      exact ⟨⟨settings, root, outer, sort, startIndex, limit⟩, group.level, rfl,
        { h with groups := others }, leaner⟩

theorem addClause (h : Leaner lean full) {conjunction : Conjunction} {query : Option FamilyQuery}
    {operator : Operator} (accepted : (full.addClause conjunction query operator).refusal = none) :
    (lean.addClause conjunction query operator).refusal = none ∧
      Leaner (lean.addClause conjunction query operator).state
        (full.addClause conjunction query operator).state := by
  obtain ⟨accepts, leaner⟩ := h.current.add accepted
  exact ⟨accepts, h.setCurrent leaner⟩

theorem step (h : Leaner lean full) {resolver : Resolver} {step : Step}
    (accepted : (full.step resolver step).refusal = none) :
    (lean.step resolver step).refusal = none ∧
      Leaner (lean.step resolver step).state (full.step resolver step).state := by
  cases step with
  | addTerm conjunction term =>
      obtain ⟨error, eq, -⟩ | ⟨query, free, compiled, eq⟩ :=
        full.addTerm_cases resolver conjunction term
      · rw [Pass.step, eq] at accepted
        cases accepted
      · have same : lean.compileTerm resolver term = .ok query := by
          rw [← compiled, compileTerm, compileTerm, h.settings]
        have eq' : lean.addTerm resolver conjunction term =
            lean.addClause conjunction query term.operator := by
          simp only [addTerm, h.current.placed free, same]
        simp only [Pass.step, eq, eq'] at accepted ⊢
        exact h.addClause accepted
  | addClause conjunction query operator => exact h.addClause accepted
  | openGroup conjunction =>
      have free := placed_of_openGroup accepted
      simp only [Pass.step, openGroup_eq_push free, openGroup_eq_push (h.current.placed free),
        h.settings]
      exact ⟨trivial, h.push conjunction (.refl _)⟩
  | closeGroup =>
      obtain ⟨outer, conjunction, level, rfl⟩ := exists_push_of_closeGroup accepted
      obtain ⟨outer', level', rfl, around, leaner⟩ := h.exists_push
      simp only [Pass.step, closeGroup_push, leaner.clauses] at accepted ⊢
      exact around.addClause accepted
  | setSort _ => exact ⟨rfl, { h with sort := rfl }⟩
  | setLimit _ => exact ⟨rfl, { h with limit := rfl }⟩
  | setStartIndex _ => exact ⟨rfl, { h with startIndex := rfl }⟩
  | setPreamble preamble =>
      exact ⟨rfl, { h with settings := by simp only [Pass.step, setPreamble, h.settings] }⟩

theorem finish (h : Leaner lean full) : lean.finish = full.finish := by
  have still : lean.groups.isEmpty = full.groups.isEmpty := by
    rw [Bool.eq_iff_iff, List.isEmpty_iff_length_eq_zero, List.isEmpty_iff_length_eq_zero,
      h.groups.length_eq]
  simp only [Pass.finish, still, h.settings, h.sort, h.startIndex, h.limit, h.root.clauses]

end Leaner

section Deletions

/-- One step without effect is taken out: a term without a query, or a group with nothing in it. -/
inductive Deletes : List Step → List Step → Prop
  | skipped (conjunction : Conjunction) (operator : Operator) (steps : List Step) :
      Deletes (.addClause conjunction none operator :: steps) steps
  | emptyGroup (conjunction : Conjunction) (steps : List Step) :
      Deletes (.openGroup conjunction :: .closeGroup :: steps) steps
  | keep (step : Step) {steps fewer : List Step} (deletes : Deletes steps fewer) :
      Deletes (step :: steps) (step :: fewer)

/-- Steps are taken out until there is none left to be taken out. -/
def Prunes (steps pruned : List Step) : Prop :=
  Relation.ReflTransGen Deletes steps pruned ∧ ∀ fewer, ¬ Deletes pruned fewer

/-- The steps without those that have no effect. A group is looked at once its inside is pruned. -/
def prune : List Step → List Step
  | [] => []
  | .addClause _ none _ :: steps => prune steps
  | .openGroup conjunction :: steps =>
    match prune steps with
    | .closeGroup :: outside => outside
    | inside => .openGroup conjunction :: inside
  | step :: steps => step :: prune steps

theorem Deletes.cons_cases {step : Step} {steps fewer : List Step}
    (deletes : Deletes (step :: steps) fewer) :
    (∃ conjunction operator, step = .addClause conjunction none operator) ∨
    (∃ conjunction outside, step = .openGroup conjunction ∧ steps = .closeGroup :: outside) ∨
    ∃ fewer, Deletes steps fewer := by
  cases deletes with
  | skipped conjunction operator => exact .inl ⟨conjunction, operator, rfl⟩
  | emptyGroup conjunction => exact .inr (.inl ⟨conjunction, fewer, rfl, rfl⟩)
  | keep _ deletes => exact .inr (.inr ⟨_, deletes⟩)

theorem deletes_prune (steps : List Step) : Relation.ReflTransGen Deletes steps (prune steps) := by
  have keep : ∀ (step : Step) {steps : List Step},
      Relation.ReflTransGen Deletes steps (prune steps) →
        Relation.ReflTransGen Deletes (step :: steps) (step :: prune steps) :=
    fun step steps h => h.lift (step :: ·) fun _ _ => .keep step
  fun_induction prune steps with
  | case1 => exact .refl
  | case2 conjunction operator steps ih => exact .head (.skipped ..) ih
  | case3 conjunction steps outside eq ih =>
      refine (keep _ ih).tail ?_
      rw [eq]
      exact .emptyGroup ..
  | case4 conjunction steps inside ih => exact keep _ ih
  | case5 step steps h h' ih => exact keep _ ih

theorem prune_irreducible (steps : List Step) : ∀ fewer, ¬ Deletes (prune steps) fewer := by
  fun_induction prune steps with
  | case1 => nofun
  | case2 conjunction operator steps ih => exact ih
  | case3 conjunction steps outside eq ih =>
      intro fewer deletes
      rw [eq] at ih
      exact ih _ (.keep _ deletes)
  | case4 conjunction steps inside ih =>
      intro fewer deletes
      obtain ⟨_, _, term⟩ | ⟨_, outside, -, closes⟩ | ⟨fewer, deletes⟩ := deletes.cons_cases
      · cases term
      · exact inside outside closes
      · exact ih fewer deletes
  | case5 step steps notTerm notOpening ih =>
      intro fewer deletes
      obtain ⟨_, _, rfl⟩ | ⟨_, _, rfl, -⟩ | ⟨fewer, deletes⟩ := deletes.cons_cases
      · exact notTerm _ _ rfl
      · exact notOpening _ rfl
      · exact ih fewer deletes

theorem prune_eq_of_deletes {steps fewer : List Step} (deletes : Deletes steps fewer) :
    prune steps = prune fewer := by
  induction deletes with
  | skipped conjunction operator steps => rw [prune]
  | emptyGroup conjunction steps => simp [prune]
  | keep step deletes ih =>
      cases step with
      | addClause conjunction query operator => cases query <;> simp [prune, ih]
      | _ => simp [prune, ih]

theorem prune_eq_of_deletions {steps fewer : List Step}
    (deletions : Relation.ReflTransGen Deletes steps fewer) : prune steps = prune fewer := by
  induction deletions with
  | refl => rfl
  | tail _ deletes ih => exact ih.trans (prune_eq_of_deletes deletes)

/-- In whichever order steps are taken out, the same steps are left in the end. -/
theorem prunes_iff (steps pruned : List Step) : Prunes steps pruned ↔ pruned = prune steps := by
  constructor
  · rintro ⟨deletions, irreducible⟩
    obtain still | ⟨fewer, deletes, -⟩ := (deletes_prune pruned).cases_head
    · exact still.trans (prune_eq_of_deletions deletions).symm
    · exact absurd deletes (irreducible fewer)
  · rintro rfl
    exact ⟨deletes_prune steps, prune_irreducible steps⟩

theorem prune_subset (steps : List Step) : prune steps ⊆ steps := by
  fun_induction prune steps with
  | case1 => exact List.Subset.refl _
  | case2 conjunction operator steps ih => exact List.subset_cons_of_subset _ ih
  | case3 conjunction steps outside eq ih =>
      rw [eq] at ih
      exact List.subset_cons_of_subset _ fun step mem => ih (List.mem_cons_of_mem _ mem)
  | case4 conjunction steps inside ih => exact List.cons_subset_cons _ ih
  | case5 step steps notTerm notOpening ih => exact List.cons_subset_cons _ ih

theorem exists_deletes_of_mem {conjunction : Conjunction} {operator : Operator}
    {steps : List Step} (mem : .addClause conjunction none operator ∈ steps) :
    ∃ fewer, Deletes steps fewer := by
  induction steps with
  | nil => cases mem
  | cons step steps ih =>
      obtain rfl | mem := List.mem_cons.mp mem
      · exact ⟨steps, .skipped ..⟩
      · obtain ⟨fewer, deletes⟩ := ih mem
        exact ⟨step :: fewer, .keep step deletes⟩

end Deletions

section Runs

variable {resolver : Resolver} {lean full after : Pass}

theorem Leaner.countTerm (h : Leaner lean full) : Leaner lean full.countTerm := by
  have counted : lean.current.Leaner ⟨full.current.termsSeen + 1, full.current.clauses⟩ :=
    ⟨h.current.clauses, Nat.le_succ_of_le h.current.termsSeen⟩
  simpa only [setCurrent_current, Pass.countTerm] using h.setCurrent counted

theorem addClause_none_accepted {conjunction : Conjunction} {operator : Operator}
    (accepted : (full.addClause conjunction none operator).refusal = none) :
    (full.addClause conjunction none operator).state = full.countTerm := by
  obtain ⟨-, eq⟩ | ⟨-, -, eq⟩ | ⟨q, clauses, -, given, -, -⟩ | ⟨q, -, given, -, -⟩ :=
    full.current.add_cases conjunction none operator
  · simp [addClause, eq] at accepted
  · simp [addClause, eq, countTerm]
  · cases given
  · cases given

theorem Leaner.runsTo (h : Leaner lean full) {steps : List Step}
    (run : RunsTo resolver full steps after) :
    ∃ after', RunsTo resolver lean steps after' ∧ Leaner after' after := by
  induction steps generalizing lean full with
  | nil =>
      cases run
      exact ⟨lean, runsTo_nil, h⟩
  | cons step steps ih =>
      obtain ⟨accepted, rest⟩ := runsTo_cons_iff.mp run
      obtain ⟨accepts, leaner⟩ := h.step accepted
      obtain ⟨after', rest', ends⟩ := ih leaner rest
      exact ⟨after', runsTo_cons_iff.mpr ⟨accepts, rest'⟩, ends⟩

theorem Deletes.runsTo {steps fewer : List Step} (deletes : Deletes steps fewer)
    (h : Leaner lean full) (run : RunsTo resolver full steps after) :
    ∃ after', RunsTo resolver lean fewer after' ∧ Leaner after' after := by
  induction deletes generalizing lean full with
  | skipped conjunction operator steps =>
      obtain ⟨accepted, rest⟩ := runsTo_cons_iff.mp run
      rw [Pass.step, addClause_none_accepted accepted] at rest
      exact h.countTerm.runsTo rest
  | emptyGroup conjunction steps =>
      obtain ⟨accepted, rest⟩ := runsTo_cons_iff.mp run
      have empty : (Level.Clauses.empty full.settings.dialect).group? = none :=
        (Level.Clauses.group?_eq_none_iff _).mpr (Level.Clauses.size_empty _)
      have closing : (full.step resolver (.openGroup conjunction)).state.step resolver
          .closeGroup = full.addClause conjunction none .equal := by
        simp only [Pass.step, openGroup_eq_push (placed_of_openGroup accepted), closeGroup_push,
          Level.start, empty]
      obtain ⟨accepted, rest⟩ := runsTo_cons_iff.mp rest
      rw [closing] at accepted rest
      rw [addClause_none_accepted accepted] at rest
      exact h.countTerm.runsTo rest
  | keep step deletes ih =>
      obtain ⟨accepted, rest⟩ := runsTo_cons_iff.mp run
      obtain ⟨accepts, leaner⟩ := h.step accepted
      obtain ⟨after', rest', ends⟩ := ih leaner rest
      exact ⟨after', runsTo_cons_iff.mpr ⟨accepts, rest'⟩, ends⟩

theorem runsTo_prune {pass : Pass} {steps : List Step} (run : RunsTo resolver pass steps after) :
    ∃ after', RunsTo resolver pass (prune steps) after' ∧ after'.finish = after.finish := by
  have fewer := deletes_prune steps
  generalize prune steps = pruned at fewer ⊢
  induction fewer with
  | refl => exact ⟨after, run, rfl⟩
  | tail _ deletes ih =>
      obtain ⟨between, run, same⟩ := ih
      obtain ⟨after', run', leaner⟩ := deletes.runsTo (.refl pass) run
      exact ⟨after', run', leaner.finish.trans same⟩

end Runs

section MatchAll

/-- A query is taken in, or a group opened or closed. -/
def Step.collects : Step → Bool
  | .addClause .. | .openGroup _ | .closeGroup => true
  | .addTerm .. | .setSort _ | .setLimit _ | .setStartIndex _ | .setPreamble _ => false

def Step.addsClause : Step → Bool
  | .addClause .. => true
  | _ => false

def Step.bringsQuery : Step → Bool
  | .addClause _ query _ => query.isSome
  | _ => false

theorem addsClause_of_bringsQuery {step : Step} (brings : step.bringsQuery) :
    step.addsClause := by
  cases step with
  | addClause conjunction query operator => rfl
  | _ => cases brings

theorem bringsQuery_of_mem_prune {steps : List Step} {step : Step} (mem : step ∈ prune steps)
    (adds : step.addsClause) : step.bringsQuery := by
  cases step with
  | addClause conjunction query operator =>
      cases query with
      | some query => rfl
      | none =>
          obtain ⟨fewer, deletes⟩ := exists_deletes_of_mem mem
          exact absurd deletes (prune_irreducible steps fewer)
  | _ => cases adds

/-- Some level has a clause. -/
def Filled (pass : Pass) : Prop := ∃ level ∈ pass.levels, 0 < level.clauses.size

theorem filled_iff_current (pass : Pass) :
    Filled pass ↔ 0 < pass.current.clauses.size ∨
      ∃ level ∈ pass.levels.tail, 0 < level.clauses.size := by
  rw [Filled, levels_eq_cons, List.exists_mem_cons_iff]
  rfl

theorem filled_push (pass : Pass) (conjunction : Conjunction) (level : Level) :
    Filled (pass.push conjunction level) ↔ 0 < level.clauses.size ∨ Filled pass := by
  rw [Filled, levels_push, List.exists_mem_cons_iff]
  rfl

theorem filled_addClause {pass : Pass} {conjunction : Conjunction} {query : Option FamilyQuery}
    {operator : Operator} (accepted : (pass.addClause conjunction query operator).refusal = none) :
    Filled (pass.addClause conjunction query operator).state ↔ Filled pass ∨ query.isSome := by
  have size : 0 < (pass.current.add conjunction query operator).state.clauses.size ↔
      0 < pass.current.clauses.size ∨ query.isSome := Level.size_add_pos_iff accepted
  rw [filled_iff_current pass, Filled, addClause, levels_setCurrent, List.exists_mem_cons_iff, size,
    or_right_comm]

theorem filled_step {pass : Pass} {resolver : Resolver} {step : Step} (collects : step.collects)
    (accepted : (pass.step resolver step).refusal = none) :
    Filled (pass.step resolver step).state ↔ Filled pass ∨ step.bringsQuery := by
  cases step with
  | addClause conjunction query operator => exact filled_addClause accepted
  | openGroup conjunction =>
      simp [Pass.step, openGroup_eq_push (placed_of_openGroup accepted), filled_push, Level.start,
        Step.bringsQuery]
  | closeGroup =>
      obtain ⟨outer, conjunction, level, rfl⟩ := exists_push_of_closeGroup accepted
      have group : level.clauses.group?.isSome ↔ 0 < level.clauses.size := by
        rw [Option.isSome_iff_ne_none, ne_eq, Level.Clauses.group?_eq_none_iff, Nat.pos_iff_ne_zero]
      rw [Pass.step, closeGroup_push] at accepted ⊢
      simp [filled_addClause accepted, filled_push, group, Step.bringsQuery, or_comm]
  | addTerm _ _ | setSort _ | setLimit _ | setStartIndex _ | setPreamble _ => cases collects

theorem filled_run {pass after : Pass} {resolver : Resolver} {steps : List Step}
    (collects : ∀ step ∈ steps, step.collects) (run : RunsTo resolver pass steps after) :
    Filled after ↔ Filled pass ∨ ∃ step ∈ steps, step.bringsQuery := by
  induction steps generalizing pass with
  | nil =>
      cases run
      simp
  | cons step steps ih =>
      obtain ⟨accepted, rest⟩ := runsTo_cons_iff.mp run
      rw [ih (fun other mem => collects other (List.mem_cons_of_mem _ mem)) rest,
        filled_step (collects step (List.mem_cons_self ..)) accepted, List.exists_mem_cons_iff,
        or_assoc]

theorem isMatchAll_iff_not_filled {pass : Pass} {compiled : Compiled}
    (finished : pass.finish = .ok compiled) : compiled.isMatchAll ↔ ¬ Filled pass := by
  have closed : pass.groups = [] := groups_eq_nil_of_finish finished
  have filled : Filled pass ↔ 0 < pass.root.clauses.size := by simp [Filled, levels, closed]
  rw [filled]
  cases clauses : pass.root.clauses with
  | relational kind clauses =>
      simp only [Pass.finish, closed, clauses, List.isEmpty_nil, Bool.not_true] at finished
      cases finished
      simp [Compiled.isMatchAll, Level.Clauses.size]
  | search fold =>
      simp only [Pass.finish, closed, clauses, List.isEmpty_nil, Bool.not_true] at finished
      cases finished
      obtain ⟨newestFirst⟩ := fold
      cases newestFirst <;>
        simp [Compiled.isMatchAll, Level.Clauses.size, Search.Fold.query, Search.Fold.query?,
          Search.Fold.size, Search.Query.isMatchAll]

end MatchAll

/-- A balanced script of compiled queries and groups, all of it accepted, is accepted as well after
all that leaves nothing behind is taken out, in whichever order, and it ends with the same query.
That query selects everything just when no query is left in the script. -/
theorem finish_run_prune {settings : Settings} {resolver : Resolver} {steps : List Step}
    (collects : ∀ step ∈ steps, step.collects) {after : Pass}
    (run : RunsTo resolver (start settings) steps after) (balanced : after.groups = []) :
    (∀ pruned, Prunes steps pruned ↔ pruned = prune steps) ∧
    ∃ after' compiled, RunsTo resolver (start settings) (prune steps) after' ∧
      after.finish = .ok compiled ∧ after'.finish = .ok compiled ∧
      (compiled.isMatchAll ↔ ∀ step ∈ prune steps, ¬ step.addsClause) := by
  obtain ⟨after', run', same⟩ := runsTo_prune run
  obtain ⟨compiled, finished⟩ : ∃ compiled, after.finish = .ok compiled := by
    cases result : after.finish with
    | ok compiled => exact ⟨compiled, rfl⟩
    | error error => exact absurd balanced ((after.finish_eq_error_iff error).mp result).1
  have finished' : after'.finish = .ok compiled := same.trans finished
  have unfilled : ¬ Filled (start settings) := by simp [Filled, levels_start, Level.start]
  have filled : Filled after' ↔ ∃ step ∈ prune steps, step.bringsQuery := by
    simpa [unfilled] using filled_run (fun step mem => collects step (prune_subset steps mem)) run'
  refine ⟨prunes_iff steps, after', compiled, run', finished, finished', ?_⟩
  rw [isMatchAll_iff_not_filled finished', filled]
  constructor
  · intro none step mem adds
    exact none ⟨step, mem, bringsQuery_of_mem_prune mem adds⟩
  · rintro none ⟨step, mem, brings⟩
    exact none step mem (addsClause_of_bringsQuery brings)

/-- The only NONE of the outermost level goes, and with it a group that is empty but for a term
without a query and a group that is empty itself. -/
theorem finish_run_prune_nested :
    let resolver := ({} : FieldTable).resolve
    let code (value : String) : Option FamilyQuery := some (.search (.phrase "code" [value]))
    let steps : List Step :=
      [.addClause .none none .equal, .openGroup .and, .addClause .none none .equal, .openGroup .or,
        .closeGroup, .closeGroup, .addClause .or (code "a") .equal, .openGroup .not,
        .addClause .or (code "b") .notEqual, .closeGroup]
    let after := ((start {}).run resolver steps).1
    RunsTo resolver (start {}) steps after ∧ after.groups = [] ∧
      prune steps = [.addClause .or (code "a") .equal, .openGroup .not,
        .addClause .or (code "b") .notEqual, .closeGroup] ∧
      ∃ after' compiled, RunsTo resolver (start {}) (prune steps) after' ∧
        after.finish = .ok compiled ∧ after'.finish = .ok compiled ∧
        (compiled.isMatchAll ↔ ∀ step ∈ prune steps, ¬ step.addsClause) := by
  intro resolver code steps after
  have run : RunsTo resolver (start {}) steps after := rfl
  have result := finish_run_prune (by decide) run rfl
  exact ⟨run, rfl, rfl, result.2⟩

end Pass
end FieldQuery
