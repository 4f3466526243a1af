import FieldQuery.Proofs.Pass.OpenGroups

/-!
What a refused step does to a pass. A term, the opening of a group and its closing leave everything
as it was when they are refused, and so does a clause whose conjunction has no place. Only a clause
of the other family leaves a trace: it is counted by the level it was offered to. Refused steps of
the first kind can therefore be left out of a script without anyone noticing.
-/

namespace FieldQuery

theorem FamilyQuery.family_of_ofTerm? {settings : Settings} {term : ResolvedTerm}
    {operator : Operator} {query : FamilyQuery}
    (h : FamilyQuery.ofTerm? settings term operator = .ok (some query)) :
    query.family = settings.dialect.family := by
  simp only [FamilyQuery.ofTerm?] at h
  split at h <;> rename_i own <;> rw [own]
  · cases compiled : Relational.Query.ofTerm term operator <;>
      simp only [compiled, Except.map, Except.ok.injEq, Option.some.injEq, reduceCtorEq] at h
    subst h
    rfl
  · cases compiled : Search.Query.ofTerm? settings.datePattern term operator <;>
      simp only [compiled, Except.map, Except.ok.injEq, reduceCtorEq] at h
    obtain ⟨inner, -, rfl⟩ := Option.map_eq_some_iff.mp h
    rfl

namespace Pass

/-- A term fails to compile when it cannot be resolved or when the resolved term has no query. -/
theorem compileTerm_eq_error_iff (pass : Pass) (resolver : Resolver) (term : Term)
    (error : Error) :
    pass.compileTerm resolver term = .error error ↔
      resolver term = .error error ∨
      ∃ resolved, resolver term = .ok resolved ∧
        FamilyQuery.ofTerm? pass.settings resolved term.operator = .error error := by
  cases h : resolver term <;> simp [compileTerm, h, bind, Except.bind]

theorem family_of_compileTerm {pass : Pass} {resolver : Resolver} {term : Term}
    {query : FamilyQuery} (h : pass.compileTerm resolver term = .ok (some query)) :
    query.family = pass.settings.dialect.family := by
  cases resolved : resolver term with
  | error error => simp [compileTerm, resolved, bind, Except.bind] at h
  | ok found =>
      simp only [compileTerm, resolved, bind, Except.bind] at h
      exact FamilyQuery.family_of_ofTerm? h

theorem addClause_compiled_accepted {pass : Pass} (fit : LevelsFit pass) {resolver : Resolver}
    {conjunction : Conjunction} {term : Term} {query : Option FamilyQuery}
    (placed : pass.current.refusal? conjunction = none)
    (compiled : pass.compileTerm resolver term = .ok query) :
    (pass.addClause conjunction query term.operator).refusal = none := by
  have family : ∀ q, query = some q → q.family = pass.settings.dialect.family := by
    rintro q rfl
    exact family_of_compileTerm compiled
  rw [addClause_accepted fit placed family]

theorem addTerm_of_refusal {pass : Pass} (fit : LevelsFit pass) {resolver : Resolver}
    {conjunction : Conjunction} {term : Term} {error : Error}
    (refused : (pass.addTerm resolver conjunction term).refusal = some error) :
    (pass.addTerm resolver conjunction term).state = pass ∧
      (pass.current.refusal? conjunction = some error ∨
        pass.compileTerm resolver term = .error error) := by
  obtain ⟨cause, eq, why⟩ | ⟨query, placed, compiled, eq⟩ :=
    pass.addTerm_cases resolver conjunction term
  · rw [eq] at refused ⊢
    cases Option.some.inj refused
    exact ⟨rfl, why⟩
  · rw [eq, addClause_compiled_accepted fit placed compiled] at refused
    cases refused

theorem openGroup_state_of_refusal {pass : Pass} {conjunction : Conjunction} {error : Error}
    (refused : (pass.openGroup conjunction).refusal = some error) :
    (pass.openGroup conjunction).state = pass := by
  cases h : pass.current.refusal? conjunction with
  | some cause => simp [openGroup, h]
  | none => simp [openGroup, h] at refused

theorem Reached.closeGroup_state_of_refusal {settings : Settings} {pass : Pass}
    (reached : Reached settings pass) {error : Error}
    (refused : pass.closeGroup.refusal = some error) : pass.closeGroup.state = pass := by
  obtain ⟨-, eq⟩ | ⟨closed, eq, -⟩ := reached.closeGroup_cases
  · rw [eq]
  · rw [eq] at refused
    cases refused

/-- The pass with one more term counted by its innermost level and nothing else different. -/
def countTerm (pass : Pass) : Pass :=
  pass.setCurrent ⟨pass.current.termsSeen + 1, pass.current.clauses⟩

theorem addClause_of_refusal {pass : Pass} {conjunction : Conjunction}
    {query : Option FamilyQuery} {operator : Operator} {error : Error}
    (refused : (pass.addClause conjunction query operator).refusal = some error) :
    (error = .misplacedConjunction ∧ (pass.addClause conjunction query operator).state = pass) ∨
    ∃ expected found, error = .dialectMismatch expected found ∧
      (pass.addClause conjunction query operator).state = pass.countTerm := by
  obtain ⟨-, eq⟩ | ⟨-, -, eq⟩ | ⟨q, clauses, -, -, -, eq⟩ | ⟨q, -, -, -, eq⟩ :=
    pass.current.add_cases conjunction query operator <;>
    simp only [addClause, eq, Option.some.injEq, reduceCtorEq] at refused
  · exact .inl ⟨refused.symm, by simp [addClause, eq]⟩
  · exact .inr ⟨_, _, refused.symm, by simp only [addClause, eq, countTerm]⟩

/-- A refusal that is not that of a clause of the other family. -/
def isTraceless : Option Error → Bool
  | none | some (.dialectMismatch _ _) => false
  | some _ => true

theorem Reached.step_state_of_traceless {settings : Settings} {pass : Pass}
    (reached : Reached settings pass) {resolver : Resolver} {step : Step}
    (traceless : isTraceless (pass.step resolver step).refusal) :
    (pass.step resolver step).state = pass := by
  cases refused : (pass.step resolver step).refusal with
  | none => simp [refused, isTraceless] at traceless
  | some error =>
      cases step with
      | addTerm conjunction term => exact (addTerm_of_refusal reached.levelsFit refused).1
      | addClause conjunction query operator =>
          obtain ⟨-, state⟩ | ⟨expected, found, rfl, -⟩ := addClause_of_refusal refused
          · exact state
          · simp [refused, isTraceless] at traceless
      | openGroup conjunction => exact openGroup_state_of_refusal refused
      | closeGroup => exact reached.closeGroup_state_of_refusal refused
      | setSort _ | setLimit _ | setStartIndex _ | setPreamble _ => cases refused

/-- Runs steps of which each has a resolver of its own. -/
def play (pass : Pass) : List (Resolver × Step) → Pass × List (Option Error)
  | [] => (pass, [])
  | (resolver, step) :: script =>
    let reply := pass.step resolver step
    let rest := play reply.state script
    (rest.1, reply.refusal :: rest.2)

theorem play_eq_run (resolver : Resolver) (pass : Pass) (steps : List Step) :
    pass.play (steps.map fun step => (resolver, step)) = pass.run resolver steps := by
  induction steps generalizing pass with
  | nil => rfl
  | cons step steps ih => simp only [List.map_cons, play, run, ih]

theorem Reached.played {settings : Settings} {pass : Pass} (reached : Reached settings pass)
    (script : List (Resolver × Step)) : Reached settings (pass.play script).1 := by
  induction script generalizing pass with
  | nil => exact reached
  | cons call script ih => exact ih (reached.step call.1 call.2)

/-- What is left of a script when the steps that are refused without a trace are taken out. -/
def traced (pass : Pass) (script : List (Resolver × Step)) : List (Resolver × Step) :=
  ((script.zip (pass.play script).2).filter fun call => !isTraceless call.2).map Prod.fst

theorem traced_cons (pass : Pass) (resolver : Resolver) (step : Step)
    (script : List (Resolver × Step)) :
    pass.traced ((resolver, step) :: script) =
      if isTraceless (pass.step resolver step).refusal then
        (pass.step resolver step).state.traced script
      else (resolver, step) :: (pass.step resolver step).state.traced script := by
  cases traceless : isTraceless (pass.step resolver step).refusal <;>
    simp [traced, play, traceless]

theorem Reached.play_traced {settings : Settings} {pass : Pass} (reached : Reached settings pass)
    (script : List (Resolver × Step)) :
    pass.play (pass.traced script) =
      ((pass.play script).1, (pass.play script).2.filter fun answer => !isTraceless answer) := by
  induction script generalizing pass with
  | nil => rfl
  | cons call script ih =>
      obtain ⟨resolver, step⟩ := call
      have rest := ih (reached.step resolver step)
      rw [traced_cons]
      -- A step that is taken out leaves the pass in which the rest of the script begins.
      cases traceless : isTraceless (pass.step resolver step).refusal with
      | true =>
          have same := reached.step_state_of_traceless traceless
          rw [same] at rest
          simp [play, traceless, same, rest]
      | false => simp [play, traceless, rest]

/-- A refused step leaves no trace in the pass, but for a clause of the other family, which is
counted. So the answers to the other steps of a script and what is finished in the end are the same
when refused steps are left out. -/
theorem Reached.refused_step_keeps_pass {settings : Settings} {pass : Pass}
    (reached : Reached settings pass) :
    (∀ resolver conjunction term error,
      (pass.addTerm resolver conjunction term).refusal = some error →
        (pass.addTerm resolver conjunction term).state = pass ∧
        (pass.current.refusal? conjunction = some error ∨ resolver term = .error error ∨
          ∃ resolved, resolver term = .ok resolved ∧
            FamilyQuery.ofTerm? pass.settings resolved term.operator = .error error)) ∧
    (∀ resolver conjunction term query, pass.current.refusal? conjunction = none →
      pass.compileTerm resolver term = .ok query →
        (pass.addClause conjunction query term.operator).refusal = none) ∧
    (∀ conjunction error, (pass.openGroup conjunction).refusal = some error →
      (pass.openGroup conjunction).state = pass) ∧
    (∀ error, pass.closeGroup.refusal = some error → pass.closeGroup.state = pass) ∧
    (∀ conjunction query operator error,
      (pass.addClause conjunction query operator).refusal = some error →
        (error = .misplacedConjunction ∧
          (pass.addClause conjunction query operator).state = pass) ∨
        ∃ expected found, error = .dialectMismatch expected found ∧
          (pass.addClause conjunction query operator).state = pass.countTerm) ∧
    ∀ script,
      (pass.play (pass.traced script)).2 =
        (pass.play script).2.filter (fun answer => !isTraceless answer) ∧
      (pass.play (pass.traced script)).1.finish = (pass.play script).1.finish := by
  refine ⟨?_, ?_, ?_, ?_, ?_, ?_⟩
  · intro resolver conjunction term error refused
    obtain ⟨state, why⟩ := addTerm_of_refusal reached.levelsFit refused
    rw [compileTerm_eq_error_iff] at why
    exact ⟨state, why⟩
  · intro resolver conjunction term query placed compiled
    exact addClause_compiled_accepted reached.levelsFit placed compiled
  · intro conjunction error refused
    exact openGroup_state_of_refusal refused
  · intro error refused
    exact reached.closeGroup_state_of_refusal refused
  · intro conjunction query operator error refused
    exact addClause_of_refusal refused
  · intro script
    rw [reached.play_traced script]
    exact ⟨rfl, rfl⟩

/-- Of four steps inside a group two are refused: a second NONE, which is taken out of the script,
and a query of the other family, which is not. -/
theorem Reached.refused_step_keeps_pass_sample :
    let resolver := ({} : FieldTable).resolve
    let pass := ((Pass.ofDialect .search).run resolver [.openGroup .none]).1
    let steps : List Step := [.addClause .none none .equal, .openGroup .none,
      .addClause .and (some (.relational (.group []))) .equal, .closeGroup]
    let fewer : List Step := [.addClause .none none .equal,
      .addClause .and (some (.relational (.group []))) .equal, .closeGroup]
    (pass.run resolver steps).2 =
        [none, some .misplacedConjunction, some (.dialectMismatch .search .relational), none] ∧
      (pass.run resolver fewer).2 =
        [none, some (.dialectMismatch .search .relational), none] ∧
      (pass.run resolver fewer).1.finish = (pass.run resolver steps).1.finish := by
  intro resolver pass steps fewer
  have reached : Reached { dialect := .search } pass := Reached.start.run resolver _
  have result := reached.refused_step_keeps_pass.2.2.2.2.2
    (steps.map fun step => (resolver, step))
  have left : pass.traced (steps.map fun step => (resolver, step)) =
      fewer.map fun step => (resolver, step) := rfl
  rw [left, play_eq_run, play_eq_run] at result
  exact ⟨rfl, result.1, result.2⟩

end Pass
end FieldQuery
