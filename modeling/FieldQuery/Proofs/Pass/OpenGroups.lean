import FieldQuery.Proofs.Pass.Reached

/-!
The stack of open groups. A group is opened only where its conjunction has its place, and while it
is open nothing reaches the level around it. So the place is still free when the group is closed,
and closing can fail for one reason alone: that there is nothing to close. Every pass can therefore
be brought to its end by as many closings as there are open groups.
-/

namespace FieldQuery
namespace Pass

/-- The pass as it is seen from inside the groups `outer`, the groups further in taken away. -/
def under (pass : Pass) (outer : List OpenGroup) : Pass := { pass with groups := outer }

/-- Every open group could be opened now, if it were not open already. -/
def GroupsPlaced (pass : Pass) : Prop :=
  ∀ group outer, group :: outer <:+ pass.groups →
    (pass.under outer).current.refusal? group.conjunction = none

namespace GroupsPlaced

variable {pass : Pass}

theorem start (settings : Settings) : GroupsPlaced (.start settings) := by
  intro group outer suffix
  cases List.suffix_nil.mp suffix

theorem setCurrent (placed : GroupsPlaced pass) (level : Level) :
    GroupsPlaced (pass.setCurrent level) := by
  obtain ⟨settings, root, groups, sort, startIndex, limit⟩ := pass
  cases groups with
  | nil =>
      intro group outer suffix
      cases List.suffix_nil.mp suffix
  | cons innermost others =>
      -- A level is never its own parent: the parents are the root and the levels of the others.
      intro group outer suffix
      obtain eq | further := List.suffix_cons_iff.mp suffix
      · cases eq
        exact placed innermost others (List.suffix_refl _)
      · exact placed group outer (further.trans (List.suffix_cons _ _))

theorem push (placed : GroupsPlaced pass) {conjunction : Conjunction}
    (free : pass.current.refusal? conjunction = none) (level : Level) :
    GroupsPlaced (pass.push conjunction level) := by
  intro group outer suffix
  obtain eq | further := List.suffix_cons_iff.mp suffix
  · cases eq
    exact free
  · exact placed group outer further

theorem of_push {conjunction : Conjunction} {level : Level}
    (placed : GroupsPlaced (pass.push conjunction level)) : GroupsPlaced pass :=
  fun group outer suffix => placed group outer (suffix.trans (List.suffix_cons _ _))

theorem free_of_push {conjunction : Conjunction} {level : Level}
    (placed : GroupsPlaced (pass.push conjunction level)) :
    pass.current.refusal? conjunction = none :=
  placed ⟨conjunction, level⟩ pass.groups (List.suffix_refl _)

theorem step (placed : GroupsPlaced pass) (resolver : Resolver) (step : Step) :
    GroupsPlaced (pass.step resolver step).state := by
  obtain eq | ⟨c, query, operator, eq⟩ | ⟨c, free, eq⟩ | ⟨outer, c, level, rfl, eq⟩ |
    ⟨preamble, sort, startIndex, limit, eq⟩ := pass.step_state_cases resolver step <;> rw [eq]
  · exact placed
  · exact placed.setCurrent _
  · exact placed.push free _
  · exact placed.of_push.setCurrent _
  · exact placed

end GroupsPlaced

theorem Reached.groupsPlaced {settings : Settings} {pass : Pass}
    (reached : Reached settings pass) : GroupsPlaced pass := by
  induction reached with
  | start => exact .start settings
  | step resolver step _ ih => exact ih.step resolver step

theorem Reached.parent_unseen {settings : Settings} {pass : Pass} (reached : Reached settings pass)
    {group : OpenGroup} {outer : List OpenGroup} (suffix : group :: outer <:+ pass.groups)
    (opener : group.conjunction = .none) : (pass.under outer).current.termsSeen = 0 :=
  (Level.refusal?_eq_none_iff _ _).mp (reached.groupsPlaced group outer suffix) opener

theorem groups_eq_nil_or_push (pass : Pass) :
    pass.groups = [] ∨ ∃ outer conjunction level, pass = push outer conjunction level := by
  obtain ⟨settings, root, groups, sort, startIndex, limit⟩ := pass
  cases groups with
  | nil => exact .inl rfl
  | cons group outer =>
      exact .inr ⟨⟨settings, root, outer, sort, startIndex, limit⟩, group.conjunction, group.level,
        rfl⟩

@[simp] theorem length_groups_setCurrent (pass : Pass) (level : Level) :
    (pass.setCurrent level).groups.length = pass.groups.length := by
  unfold setCurrent
  cases pass.groups <;> simp

theorem closeGroup_eq_of_nil {pass : Pass} (none : pass.groups = []) :
    pass.closeGroup = ⟨pass, some (.unbalancedGroup .nothingToClose)⟩ := by
  simp [closeGroup, none]

theorem placed_of_openGroup {pass : Pass} {conjunction : Conjunction}
    (accepted : (pass.openGroup conjunction).refusal = none) :
    pass.current.refusal? conjunction = none := by
  cases refused : pass.current.refusal? conjunction with
  | none => rfl
  | some error => simp [openGroup, refused] at accepted

theorem exists_push_of_closeGroup {pass : Pass} (accepted : pass.closeGroup.refusal = none) :
    ∃ outer conjunction level, pass = push outer conjunction level := by
  obtain none | pushed := pass.groups_eq_nil_or_push
  · simp [closeGroup_eq_of_nil none] at accepted
  · exact pushed

theorem closeGroup_push_accepted {pass : Pass} {conjunction : Conjunction} {level : Level}
    (fit : LevelsFit (pass.push conjunction level))
    (placed : GroupsPlaced (pass.push conjunction level)) :
    (pass.push conjunction level).closeGroup =
      ⟨pass.setCurrent (pass.current.add conjunction level.clauses.group? .equal).state, none⟩ := by
  have fits : level.clauses.Fits pass.settings.dialect := fit.current
  have family : ∀ q, level.clauses.group? = some q → q.family = pass.settings.dialect.family :=
    fun q group => (Level.Clauses.family_of_group? group).trans fits.family_eq
  rw [closeGroup_push]
  exact addClause_accepted fit.of_push placed.free_of_push family .equal

theorem Reached.closeGroup_cases {settings : Settings} {pass : Pass}
    (reached : Reached settings pass) :
    (pass.groups = [] ∧
      pass.closeGroup = ⟨pass, some (.unbalancedGroup .nothingToClose)⟩) ∨
    ∃ closed : Pass, pass.closeGroup = ⟨closed, none⟩ ∧
      pass.groups.length = closed.groups.length + 1 := by
  obtain none | ⟨outer, conjunction, level, rfl⟩ := pass.groups_eq_nil_or_push
  · exact .inl ⟨none, closeGroup_eq_of_nil none⟩
  · refine .inr ⟨_, closeGroup_push_accepted reached.levelsFit reached.groupsPlaced, ?_⟩
    simp [Pass.push]

theorem Reached.closeGroup_refusal_iff {settings : Settings} {pass : Pass}
    (reached : Reached settings pass) (error : Error) :
    pass.closeGroup.refusal = some error ↔
      pass.groups = [] ∧ error = .unbalancedGroup .nothingToClose := by
  obtain ⟨none, eq⟩ | ⟨closed, eq, length⟩ := reached.closeGroup_cases
  · simp [eq, none, eq_comm]
  · have opened : pass.groups ≠ [] := by
      rintro none
      simp [none] at length
    simp [eq, opened]

theorem repeat_closeGroup (pass : Pass) (n : Nat) :
    Nat.repeat (fun p : Pass => p.closeGroup.state) (n + 1) pass =
      Nat.repeat (fun p : Pass => p.closeGroup.state) n pass.closeGroup.state := by
  induction n with
  | zero => rfl
  | succ n ih => exact congrArg (fun p : Pass => p.closeGroup.state) ih

theorem Reached.runsTo_closeAll {settings : Settings} {pass : Pass}
    (reached : Reached settings pass) (resolver : Resolver) :
    RunsTo resolver pass (List.replicate pass.groups.length .closeGroup) pass.closeAll ∧
      pass.closeAll.groups = [] := by
  induction length : pass.groups.length generalizing pass with
  | zero =>
      have none : pass.groups = [] := List.length_eq_zero_iff.mp length
      have still : pass.closeAll = pass := by simp [closeAll, none, Nat.repeat]
      rw [still]
      exact ⟨runsTo_nil, none⟩
  | succ depth ih =>
      obtain ⟨none, -⟩ | ⟨closed, eq, fewer⟩ := reached.closeGroup_cases
      · simp [none] at length
      · have step : pass.step resolver .closeGroup = ⟨closed, Option.none⟩ := eq
        have next : Reached settings closed := by
          have stepped := reached.step resolver .closeGroup
          rwa [step] at stepped
        have inner : closed.groups.length = depth := by omega
        have all : pass.closeAll = closed.closeAll := by
          rw [closeAll, closeAll, fewer, repeat_closeGroup, eq]
        obtain ⟨run, none⟩ := ih next inner
        rw [all, List.replicate_succ]
        exact ⟨.cons step run, none⟩

end Pass

/-- The compiled query is one of the dialect's own kind. -/
def Compiled.Fits (dialect : Dialect) : Compiled → Prop
  | .relational statement => dialect.relational? = some statement.dialect
  | .search _ => dialect.relational? = none

namespace Pass

theorem finish_eq_error_iff (pass : Pass) (error : Error) :
    pass.finish = .error error ↔ pass.groups ≠ [] ∧ error = .unbalancedGroup .leftOpen := by
  cases h : pass.groups with
  | nil => cases clauses : pass.root.clauses <;> simp [finish, h, clauses]
  | cons group outer => simp [finish, h, eq_comm]

theorem groups_eq_nil_of_finish {pass : Pass} {compiled : Compiled}
    (finished : pass.finish = .ok compiled) : pass.groups = [] := by
  cases opened : pass.groups with
  | nil => rfl
  | cons group outer =>
      rw [(pass.finish_eq_error_iff _).mpr ⟨by simp [opened], rfl⟩] at finished
      cases finished

theorem finish_fits {pass : Pass} (fit : LevelsFit pass) (closed : pass.groups = []) :
    ∃ compiled, pass.finish = .ok compiled ∧ compiled.Fits pass.settings.dialect := by
  obtain ⟨settings, ⟨termsSeen, clauses⟩, groups, sort, startIndex, limit⟩ := pass
  cases closed
  cases clauses with
  | relational kind clauses => exact ⟨_, rfl, fit.root⟩
  | search fold => exact ⟨_, rfl, fit.root⟩

/-- Wherever steps have led a pass, refused ones included: every level is one of the dialect's, the
level around a group that NONE opened has seen no term, closing fails just where no group is open
and finishing just where one is. Closing once for each open group is accepted every time and once
more is refused; what is finished then is a query of the dialect. -/
theorem Reached.completable {settings : Settings} {pass : Pass}
    (reached : Reached settings pass) (resolver : Resolver) :
    pass.settings.dialect = settings.dialect ∧ LevelsFit pass ∧
    (∀ group outer, group :: outer <:+ pass.groups → group.conjunction = .none →
      (pass.under outer).current.termsSeen = 0) ∧
    (∀ error, pass.closeGroup.refusal = some error ↔
      pass.groups = [] ∧ error = .unbalancedGroup .nothingToClose) ∧
    (Error.unbalancedGroup .nothingToClose).message = "unbalanced group: no group to close" ∧
    (∀ error, pass.finish = .error error ↔
      pass.groups ≠ [] ∧ error = .unbalancedGroup .leftOpen) ∧
    pass.run resolver (List.replicate (pass.groups.length + 1) .closeGroup) =
      (pass.closeAll, List.replicate pass.groups.length none ++
        [some (.unbalancedGroup .nothingToClose)]) ∧
    ∃ compiled, pass.closeAll.finish = .ok compiled ∧ compiled.Fits settings.dialect := by
  obtain ⟨run, closed⟩ := reached.runsTo_closeAll resolver
  have after : Reached settings pass.closeAll := by
    have ran := reached.run resolver (List.replicate pass.groups.length .closeGroup)
    rwa [run] at ran
  refine ⟨reached.dialect_eq, reached.levelsFit, fun group outer => reached.parent_unseen,
    reached.closeGroup_refusal_iff, rfl, pass.finish_eq_error_iff, ?_, ?_⟩
  · rw [List.replicate_succ', run_append, run]
    simp [Pass.run, Pass.step, closeGroup_eq_of_nil closed]
  · rw [← after.dialect_eq]
    exact finish_fits after.levelsFit closed

/-- Three groups are opened and one of them is closed again; in between a query of the other family
and a second NONE are refused. -/
theorem Reached.completable_nested :
    let resolver := ({} : FieldTable).resolve
    let pass := ((Pass.ofDialect .sql).run resolver
      [.openGroup .none, .openGroup .none, .addClause .none (some (.search .matchAll)) .equal,
        .openGroup .none, .closeGroup, .openGroup .not]).1
    pass.groups.map OpenGroup.conjunction = [.not, .none] ∧
      pass.run resolver [.closeGroup, .closeGroup, .closeGroup] =
        (pass.closeAll, [none, none, some (.unbalancedGroup .nothingToClose)]) ∧
      ∃ compiled, pass.closeAll.finish = .ok compiled ∧ compiled.Fits .sql := by
  intro resolver pass
  have reached : Reached { dialect := .sql } pass := Reached.start.run resolver _
  have result := reached.completable resolver
  exact ⟨rfl, result.2.2.2.2.2.2⟩

end Pass
end FieldQuery
