import FieldQuery.Pass
import FieldQuery.Proofs.Level

/-!
The states that a pass can be in. Every step does one of a few things to the state: it changes the
innermost level by one term, it opens a group, it closes one, or it sets something that no level
knows of. What all of these keep holds of every state that steps lead to, refused ones included.
-/

namespace FieldQuery
namespace Pass

def push (pass : Pass) (conjunction : Conjunction) (level : Level) : Pass :=
  { pass with groups := ⟨conjunction, level⟩ :: pass.groups }

@[simp] theorem current_setCurrent (pass : Pass) (level : Level) :
    (pass.setCurrent level).current = level := by
  unfold setCurrent current
  cases pass.groups <;> rfl

@[simp] theorem setCurrent_current (pass : Pass) : pass.setCurrent pass.current = pass := by
  obtain ⟨settings, root, groups, sort, startIndex, limit⟩ := pass
  cases groups <;> rfl

@[simp] theorem setCurrent_setCurrent (pass : Pass) (first second : Level) :
    (pass.setCurrent first).setCurrent second = pass.setCurrent second := by
  obtain ⟨settings, root, groups, sort, startIndex, limit⟩ := pass
  cases groups <;> rfl

@[simp] theorem settings_setCurrent (pass : Pass) (level : Level) :
    (pass.setCurrent level).settings = pass.settings := by
  unfold setCurrent
  cases pass.groups <;> rfl

@[simp] theorem current_push (pass : Pass) (conjunction : Conjunction) (level : Level) :
    (pass.push conjunction level).current = level := rfl

@[simp] theorem settings_push (pass : Pass) (conjunction : Conjunction) (level : Level) :
    (pass.push conjunction level).settings = pass.settings := rfl

@[simp] theorem setCurrent_push (pass : Pass) (conjunction : Conjunction) (first second : Level) :
    (pass.push conjunction first).setCurrent second = pass.push conjunction second := rfl

/-- The levels of a pass, the innermost first and the root last. -/
def levels (pass : Pass) : List Level := pass.groups.map OpenGroup.level ++ [pass.root]

theorem levels_start (settings : Settings) :
    (start settings).levels = [.start settings.dialect] := rfl

theorem levels_push (pass : Pass) (conjunction : Conjunction) (level : Level) :
    (pass.push conjunction level).levels = level :: pass.levels := rfl

theorem levels_eq_cons (pass : Pass) : pass.levels = pass.current :: pass.levels.tail := by
  unfold levels current
  cases pass.groups <;> rfl

theorem levels_setCurrent (pass : Pass) (level : Level) :
    (pass.setCurrent level).levels = level :: pass.levels.tail := by
  unfold levels setCurrent
  cases pass.groups <;> rfl

theorem openGroup_eq_push {pass : Pass} {conjunction : Conjunction}
    (placed : pass.current.refusal? conjunction = none) :
    pass.openGroup conjunction =
      ⟨pass.push conjunction (.start pass.settings.dialect), none⟩ := by
  simp [openGroup, placed, push]

theorem closeGroup_push (pass : Pass) (conjunction : Conjunction) (level : Level) :
    (pass.push conjunction level).closeGroup =
      pass.addClause conjunction level.clauses.group? .equal := rfl

/-- Two passes that agree in everything but the level that the next term goes to. -/
structure SameAround (before after : Pass) : Prop where
  settings : after.settings = before.settings
  sort : after.sort = before.sort
  startIndex : after.startIndex = before.startIndex
  limit : after.limit = before.limit
  conjunctions : after.groups.map OpenGroup.conjunction = before.groups.map OpenGroup.conjunction
  outerGroups : after.groups.tail = before.groups.tail
  root : before.groups ≠ [] → after.root = before.root

theorem sameAround_setCurrent (pass : Pass) (level : Level) :
    SameAround pass (pass.setCurrent level) := by
  obtain ⟨settings, root, groups, sort, startIndex, limit⟩ := pass
  cases groups with
  | nil => exact ⟨rfl, rfl, rfl, rfl, rfl, rfl, fun h => absurd rfl h⟩
  | cons group outer => exact ⟨rfl, rfl, rfl, rfl, rfl, rfl, fun _ => rfl⟩

theorem addTerm_cases (pass : Pass) (resolver : Resolver) (conjunction : Conjunction)
    (term : Term) :
    (∃ error, pass.addTerm resolver conjunction term = ⟨pass, some error⟩ ∧
      (pass.current.refusal? conjunction = some error ∨
        pass.compileTerm resolver term = .error error)) ∨
    (∃ query, pass.current.refusal? conjunction = none ∧
      pass.compileTerm resolver term = .ok query ∧
      pass.addTerm resolver conjunction term =
        pass.addClause conjunction query term.operator) := by
  cases refused : pass.current.refusal? conjunction with
  | some error => exact .inl ⟨error, by simp [addTerm, refused], .inl rfl⟩
  | none =>
      cases compiled : pass.compileTerm resolver term with
      | error error => exact .inl ⟨error, by simp [addTerm, refused, compiled], .inr rfl⟩
      | ok query => exact .inr ⟨query, rfl, rfl, by simp [addTerm, refused, compiled]⟩

theorem step_state_cases (resolver : Resolver) (pass : Pass) (step : Step) :
    (pass.step resolver step).state = pass ∨
    (∃ conjunction query operator,
      (pass.step resolver step).state =
        pass.setCurrent (pass.current.add conjunction query operator).state) ∨
    (∃ conjunction, pass.current.refusal? conjunction = none ∧
      (pass.step resolver step).state =
        pass.push conjunction (.start pass.settings.dialect)) ∨
    (∃ outer conjunction level, pass = push outer conjunction level ∧
      (pass.step resolver step).state =
        outer.setCurrent (outer.current.add conjunction level.clauses.group? .equal).state) ∨
    (∃ preamble sort startIndex limit,
      (pass.step resolver step).state =
        { pass with settings := { pass.settings with preamble }, sort, startIndex, limit }) := by
  cases step with
  | addTerm conjunction term =>
      obtain ⟨error, eq, -⟩ | ⟨query, -, -, eq⟩ := pass.addTerm_cases resolver conjunction term
      · exact .inl (by simp [Pass.step, eq])
      · exact .inr (.inl ⟨conjunction, query, term.operator, by simp [Pass.step, eq, addClause]⟩)
  | addClause conjunction query operator =>
      exact .inr (.inl ⟨conjunction, query, operator, rfl⟩)
  | openGroup conjunction =>
      cases refused : pass.current.refusal? conjunction with
      | some error => exact .inl (by simp [Pass.step, openGroup, refused])
      | none =>
          exact .inr (.inr (.inl ⟨conjunction, refused, by
            simp [Pass.step, openGroup_eq_push refused]⟩))
  | closeGroup =>
      obtain ⟨settings, root, groups, sort, startIndex, limit⟩ := pass
      cases groups with
      | nil => exact .inl rfl
      | cons group outer =>
          exact .inr (.inr (.inr (.inl ⟨⟨settings, root, outer, sort, startIndex, limit⟩,
            group.conjunction, group.level, rfl, rfl⟩)))
  | setSort sort =>
      exact .inr (.inr (.inr (.inr ⟨pass.settings.preamble, sort, _, _, rfl⟩)))
  | setLimit limit =>
      exact .inr (.inr (.inr (.inr ⟨pass.settings.preamble, _, _, some limit, rfl⟩)))
  | setStartIndex startIndex =>
      exact .inr (.inr (.inr (.inr ⟨pass.settings.preamble, _, some startIndex, _, rfl⟩)))
  | setPreamble preamble =>
      exact .inr (.inr (.inr (.inr ⟨some preamble, _, _, _, rfl⟩)))

/-- The steps are all accepted and lead to `after`. -/
def RunsTo (resolver : Resolver) (pass : Pass) (steps : List Step) (after : Pass) : Prop :=
  pass.run resolver steps = (after, List.replicate steps.length none)

section

variable {resolver : Resolver} {pass : Pass}

theorem runsTo_nil : RunsTo resolver pass [] pass := rfl

theorem RunsTo.cons {step : Step} {steps : List Step} {next after : Pass}
    (first : pass.step resolver step = ⟨next, none⟩) (rest : RunsTo resolver next steps after) :
    RunsTo resolver pass (step :: steps) after := by
  simp only [RunsTo, run, first, List.length_cons, List.replicate_succ]
  rw [rest]

theorem runsTo_cons_iff {step : Step} {steps : List Step} {after : Pass} :
    RunsTo resolver pass (step :: steps) after ↔
      (pass.step resolver step).refusal = none ∧
        RunsTo resolver (pass.step resolver step).state steps after := by
  simp only [RunsTo, run, List.length_cons, List.replicate_succ, List.cons.injEq, Prod.ext_iff]
  exact and_left_comm

theorem run_append (resolver : Resolver) (pass : Pass) (first second : List Step) :
    pass.run resolver (first ++ second) =
      (((pass.run resolver first).1.run resolver second).1,
        (pass.run resolver first).2 ++ ((pass.run resolver first).1.run resolver second).2) := by
  induction first generalizing pass with
  | nil => rfl
  | cons step steps ih => simp [run, ih]

theorem RunsTo.append {first second : List Step} {next after : Pass}
    (h : RunsTo resolver pass first next) (k : RunsTo resolver next second after) :
    RunsTo resolver pass (first ++ second) after := by
  simp only [RunsTo] at h k ⊢
  simp [run_append, h, k, List.replicate_append_replicate]

end

/-- The states that steps lead to from a fresh pass. Each step may come with a resolver of its own,
and refused steps count too. -/
inductive Reached (settings : Settings) : Pass → Prop
  | start : Reached settings (.start settings)
  | step {pass : Pass} (resolver : Resolver) (step : Step) :
      Reached settings pass → Reached settings (pass.step resolver step).state

theorem Reached.run {settings : Settings} {pass : Pass} (reached : Reached settings pass)
    (resolver : Resolver) (steps : List Step) :
    Reached settings (pass.run resolver steps).1 := by
  induction steps generalizing pass with
  | nil => exact reached
  | cons step steps ih => exact ih (reached.step resolver step)

/-- No step touches the settings but for the preamble. -/
theorem settings_step (resolver : Resolver) (pass : Pass) (step : Step) :
    ∃ preamble, (pass.step resolver step).state.settings = { pass.settings with preamble } := by
  obtain eq | ⟨c, query, operator, eq⟩ | ⟨c, -, eq⟩ | ⟨outer, c, level, rfl, eq⟩ |
    ⟨preamble, sort, startIndex, limit, eq⟩ := pass.step_state_cases resolver step <;> rw [eq]
  · exact ⟨_, rfl⟩
  · exact ⟨_, settings_setCurrent _ _⟩
  · exact ⟨_, rfl⟩
  · exact ⟨_, settings_setCurrent _ _⟩
  · exact ⟨preamble, rfl⟩

theorem dialect_step (resolver : Resolver) (pass : Pass) (step : Step) :
    (pass.step resolver step).state.settings.dialect = pass.settings.dialect := by
  obtain ⟨preamble, eq⟩ := settings_step resolver pass step
  rw [eq]

theorem Reached.settings_eq {settings : Settings} {pass : Pass}
    (reached : Reached settings pass) :
    pass.settings = { settings with preamble := pass.settings.preamble } := by
  induction reached with
  | start => rfl
  | @step pass resolver step _ ih =>
      obtain ⟨preamble, eq⟩ := settings_step resolver pass step
      rw [eq, ih]

theorem Reached.dialect_eq {settings : Settings} {pass : Pass} (reached : Reached settings pass) :
    pass.settings.dialect = settings.dialect := by
  rw [reached.settings_eq]

/-- Every level of the pass was started for its dialect. -/
structure LevelsFit (pass : Pass) : Prop where
  root : pass.root.clauses.Fits pass.settings.dialect
  groups : ∀ group ∈ pass.groups, group.level.clauses.Fits pass.settings.dialect

namespace LevelsFit

variable {pass : Pass}

theorem start (settings : Settings) : LevelsFit (.start settings) :=
  ⟨Level.Clauses.fits_empty _, by simp [Pass.start]⟩

theorem current (fit : LevelsFit pass) :
    pass.current.clauses.Fits pass.settings.dialect := by
  unfold Pass.current
  cases h : pass.groups with
  | nil => exact fit.root
  | cons group outer => exact fit.groups group (by simp [h])

theorem setCurrent (fit : LevelsFit pass) {level : Level}
    (fits : level.clauses.Fits pass.settings.dialect) : LevelsFit (pass.setCurrent level) := by
  unfold Pass.setCurrent
  cases h : pass.groups with
  | nil => exact ⟨fits, by simp⟩
  | cons group outer =>
      refine ⟨fit.root, fun other mem => ?_⟩
      obtain rfl | mem := List.mem_cons.mp mem
      · exact fits
      · exact fit.groups other (by simp [h, mem])

theorem push (fit : LevelsFit pass) (conjunction : Conjunction) {level : Level}
    (fits : level.clauses.Fits pass.settings.dialect) :
    LevelsFit (pass.push conjunction level) := by
  refine ⟨fit.root, fun group mem => ?_⟩
  obtain rfl | mem := List.mem_cons.mp mem
  · exact fits
  · exact fit.groups group mem

theorem of_push {conjunction : Conjunction} {level : Level}
    (fit : LevelsFit (pass.push conjunction level)) : LevelsFit pass :=
  ⟨fit.root, fun group mem => fit.groups group (List.mem_cons_of_mem _ mem)⟩

theorem step (fit : LevelsFit pass) (resolver : Resolver) (step : Step) :
    LevelsFit (pass.step resolver step).state := by
  obtain eq | ⟨c, query, operator, eq⟩ | ⟨c, -, eq⟩ | ⟨outer, c, level, rfl, eq⟩ |
    ⟨preamble, sort, startIndex, limit, eq⟩ := pass.step_state_cases resolver step <;> rw [eq]
  · exact fit
  · exact fit.setCurrent (Level.fits_add fit.current c query operator)
  · exact fit.push c (Level.Clauses.fits_empty _)
  · exact fit.of_push.setCurrent (Level.fits_add fit.of_push.current c _ _)
  · exact ⟨fit.root, fit.groups⟩

end LevelsFit

theorem Reached.levelsFit {settings : Settings} {pass : Pass} (reached : Reached settings pass) :
    LevelsFit pass := by
  induction reached with
  | start => exact .start settings
  | step resolver step _ ih => exact ih.step resolver step

theorem addClause_accepted {pass : Pass} {conjunction : Conjunction} {query : Option FamilyQuery}
    (fit : LevelsFit pass) (placed : pass.current.refusal? conjunction = none)
    (family : ∀ q, query = some q → q.family = pass.settings.dialect.family)
    (operator : Operator) :
    pass.addClause conjunction query operator =
      ⟨pass.setCurrent (pass.current.add conjunction query operator).state, none⟩ := by
  have own : ∀ q, query = some q → q.family = pass.current.clauses.family :=
    fun q given => (family q given).trans fit.current.family_eq.symm
  have accepted := Level.add_accepted placed own operator
  simp only [addClause, accepted]

end Pass
end FieldQuery
