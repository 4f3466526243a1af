import FieldQuery.Proofs.Pass.Refusals

/-!
What is chosen beside the clauses. A pass carries the preamble, the order, the start index and the
limit along, and nothing reads them before the end. So other choices can be put into a pass before
or after a step that is about the clauses, and the steps that choose do nothing else. A script then
falls apart: the answers and the clauses are those of its other steps, and what it chooses last is
filled in at the end.
-/

namespace FieldQuery

structure Choices where
  preamble : Option String
  sort : List SortClause
  startIndex : Option Nat
  limit : Option Nat

namespace Compiled

/-- A search has no place for a preamble. -/
def withChoices (choices : Choices) : Compiled → Compiled
  | .relational statement => .relational
      { statement with
        preamble := choices.preamble
        sort := choices.sort
        startIndex := choices.startIndex
        limit := choices.limit }
  | .search request => .search
      { request with
        sort := choices.sort
        startIndex := choices.startIndex
        limit := choices.limit }

def request? : Compiled → Option Search.Request
  | .relational _ => none
  | .search request => some request

def searchText? (compiled : Compiled) : Option String :=
  compiled.request?.map fun request => request.query.text

def condition? : Compiled → Option String
  | .relational statement => statement.condition?
  | .search _ => none

variable (compiled : Compiled) (first second : Choices)

theorem searchText?_withChoices :
    (compiled.withChoices first).searchText? = compiled.searchText? := by
  cases compiled <;> rfl

theorem condition?_withChoices :
    (compiled.withChoices first).condition? = compiled.condition? := by
  cases compiled <;> rfl

variable {first second}

/-- The text is written without the limit and the start index. -/
theorem text_withChoices (preamble : first.preamble = second.preamble)
    (sort : first.sort = second.sort) :
    (compiled.withChoices first).text = (compiled.withChoices second).text := by
  cases compiled with
  | relational statement =>
      simp only [withChoices, text, Relational.Statement.text, Relational.Statement.parts,
        Relational.Statement.preamble?, Relational.Statement.condition?,
        Relational.Statement.order?, preamble, sort]
  | search request => rfl

theorem request?_withChoices (sort : first.sort = second.sort)
    (startIndex : first.startIndex = second.startIndex) (limit : first.limit = second.limit) :
    (compiled.withChoices first).request? = (compiled.withChoices second).request? := by
  cases compiled with
  | relational statement => rfl
  | search request => simp only [withChoices, request?, sort, startIndex, limit]

theorem map_withChoices_congr {α : Type} {result : Except Error Compiled} {read : Compiled → α}
    (same : ∀ compiled : Compiled,
      read (compiled.withChoices first) = read (compiled.withChoices second)) :
    (result.map (withChoices first)).map read = (result.map (withChoices second)).map read := by
  cases result with
  | error error => rfl
  | ok compiled => exact congrArg Except.ok (same compiled)

end Compiled

namespace Pass

namespace Step

def preamble? : Step → Option String
  | .setPreamble preamble => some preamble
  | _ => none

def sort? : Step → Option (List SortClause)
  | .setSort sort => some sort
  | _ => none

def startIndex? : Step → Option Nat
  | .setStartIndex startIndex => some startIndex
  | _ => none

def limit? : Step → Option Nat
  | .setLimit limit => some limit
  | _ => none

def isChoice : Step → Bool
  | .setSort _ | .setLimit _ | .setStartIndex _ | .setPreamble _ => true
  | .addTerm _ _ | .addClause _ _ _ | .openGroup _ | .closeGroup => false

end Step

/-- The calls of a script that are about the clauses. -/
def clauseCalls (script : List (Resolver × Step)) : List (Resolver × Step) :=
  script.filter fun call => !call.2.isChoice

/-- The answers of a script to the calls that are about the clauses. -/
def clauseAnswers (script : List (Resolver × Step)) (answers : List (Option Error)) :
    List (Option Error) :=
  ((script.zip answers).filter fun call => !call.1.2.isChoice).map Prod.snd

/-- The last of the values that the steps of a script set. -/
def lastSet {α : Type} (value? : Step → Option α) (script : List (Resolver × Step)) : Option α :=
  (script.filterMap fun call => value? call.2).getLast?

theorem lastSet_cons {α : Type} (value? : Step → Option α) (call : Resolver × Step)
    (script : List (Resolver × Step)) :
    lastSet value? (call :: script) = (lastSet value? script).or (value? call.2) := by
  cases set : value? call.2 <;> simp [lastSet, set, List.getLast?_cons]

end Pass

namespace Choices

/-- What is chosen after a script: what it sets last, and else what was chosen before. -/
def after (choices : Choices) (script : List (Resolver × Pass.Step)) : Choices where
  preamble := (Pass.lastSet Pass.Step.preamble? script).or choices.preamble
  sort := (Pass.lastSet Pass.Step.sort? script).getD choices.sort
  startIndex := (Pass.lastSet Pass.Step.startIndex? script).or choices.startIndex
  limit := (Pass.lastSet Pass.Step.limit? script).or choices.limit

theorem after_cons (choices : Choices) (call : Resolver × Pass.Step)
    (script : List (Resolver × Pass.Step)) :
    choices.after (call :: script) = (choices.after [call]).after script := by
  simp only [after, Pass.lastSet_cons, Option.or_assoc, Option.getD_or]
  rfl

theorem after_of_clause (choices : Choices) (resolver : Resolver) {step : Pass.Step}
    (clause : step.isChoice = false) : choices.after [(resolver, step)] = choices := by
  cases step <;> first | rfl | cases clause

end Choices

namespace Pass

def choices (pass : Pass) : Choices :=
  ⟨pass.settings.preamble, pass.sort, pass.startIndex, pass.limit⟩

def withChoices (choices : Choices) (pass : Pass) : Pass :=
  { pass with
    settings := { pass.settings with preamble := choices.preamble }
    sort := choices.sort
    startIndex := choices.startIndex
    limit := choices.limit }

variable (choices : Choices)

theorem current_withChoices (pass : Pass) : (pass.withChoices choices).current = pass.current := rfl

theorem setCurrent_withChoices (pass : Pass) (level : Level) :
    (pass.withChoices choices).setCurrent level = (pass.setCurrent level).withChoices choices := by
  obtain ⟨settings, root, groups, sort, startIndex, limit⟩ := pass
  cases groups <;> rfl

theorem addClause_withChoices (pass : Pass) (conjunction : Conjunction)
    (query : Option FamilyQuery) (operator : Operator) :
    (pass.withChoices choices).addClause conjunction query operator =
      ⟨(pass.addClause conjunction query operator).state.withChoices choices,
        (pass.addClause conjunction query operator).refusal⟩ := by
  simp only [addClause, current_withChoices, setCurrent_withChoices]

theorem compileTerm_withChoices (pass : Pass) (resolver : Resolver) (term : Term) :
    (pass.withChoices choices).compileTerm resolver term = pass.compileTerm resolver term := rfl

theorem step_withChoices (resolver : Resolver) (pass : Pass) {step : Step}
    (clause : step.isChoice = false) :
    (pass.withChoices choices).step resolver step =
      ⟨(pass.step resolver step).state.withChoices choices, (pass.step resolver step).refusal⟩ := by
  cases step with
  | addTerm conjunction term =>
      simp only [Pass.step, addTerm, current_withChoices, compileTerm_withChoices]
      split
      · rfl
      · split
        · rfl
        · exact addClause_withChoices choices pass ..
  | addClause conjunction query operator => exact addClause_withChoices choices pass ..
  | openGroup conjunction =>
      simp only [Pass.step, openGroup, current_withChoices]
      split <;> rfl
  | closeGroup =>
      obtain ⟨settings, root, groups, sort, startIndex, limit⟩ := pass
      cases groups with
      | nil => rfl
      | cons group outer =>
          exact addClause_withChoices choices ⟨settings, root, outer, sort, startIndex, limit⟩ ..
  | setSort _ | setLimit _ | setStartIndex _ | setPreamble _ => cases clause

theorem step_of_choice (resolver : Resolver) (pass : Pass) {step : Step}
    (choice : step.isChoice = true) :
    (pass.withChoices choices).step resolver step =
      ⟨pass.withChoices (choices.after [(resolver, step)]), none⟩ := by
  cases step <;> first | rfl | cases choice

theorem play_withChoices (pass : Pass) (script : List (Resolver × Step)) :
    ((pass.withChoices choices).play script).1 =
        (pass.play (clauseCalls script)).1.withChoices (choices.after script) ∧
      clauseAnswers script ((pass.withChoices choices).play script).2 =
        (pass.play (clauseCalls script)).2 := by
  induction script generalizing pass choices with
  | nil => exact ⟨rfl, rfl⟩
  | cons call script ih =>
      obtain ⟨resolver, step⟩ := call
      rw [Choices.after_cons]
      cases kind : step.isChoice with
      | true =>
          obtain ⟨state, answers⟩ := ih (choices.after [(resolver, step)]) pass
          simp only [play, step_of_choice choices resolver pass kind]
          simpa [clauseCalls, clauseAnswers, kind] using ⟨state, answers⟩
      | false =>
          obtain ⟨state, answers⟩ := ih choices (pass.step resolver step).state
          simp only [play, step_withChoices choices resolver pass kind,
            Choices.after_of_clause choices resolver kind]
          simpa [clauseCalls, clauseAnswers, kind, play] using ⟨state, answers⟩

theorem finish_withChoices (pass : Pass) :
    (pass.withChoices choices).finish = pass.finish.map (Compiled.withChoices choices) := by
  obtain ⟨settings, ⟨termsSeen, clauses⟩, groups, sort, startIndex, limit⟩ := pass
  cases groups with
  | nil => cases clauses <;> rfl
  | cons group outer => rfl

theorem finish_play (pass : Pass) (script : List (Resolver × Step)) :
    ((pass.withChoices choices).play script).1.finish =
      (pass.play (clauseCalls script)).1.finish.map
        (Compiled.withChoices (choices.after script)) := by
  rw [(play_withChoices choices pass script).1, finish_withChoices]

/-- What is chosen and what is added to the clauses do not interfere. The calls about the clauses
are answered as if they were alone, and a script ends as these alone would end, with the same
failure or with what it chose last filled in. So two scripts with the same calls about the clauses
are answered alike and end alike, as far as they choose alike: for the text the preamble and the
order count, for a search everything but the preamble, and nothing at all for the text of a search
and the condition of a statement. The preamble that a pass begins with counts as chosen. -/
theorem choices_apart_from_clauses (settings : Settings) (script : List (Resolver × Step)) :
    let whole := (start settings).play script
    let alone := (start settings).play (clauseCalls script)
    let chosen := (start settings).choices.after script
    clauseAnswers script whole.2 = alone.2 ∧
    whole.1.finish = alone.1.finish.map (Compiled.withChoices chosen) ∧
    ∀ (preamble : Option String) (script' : List (Resolver × Step)),
      clauseCalls script' = clauseCalls script →
      let whole' := (start { settings with preamble }).play script'
      let chosen' := (start { settings with preamble }).choices.after script'
      clauseAnswers script' whole'.2 = clauseAnswers script whole.2 ∧
      (chosen' = chosen → whole'.1.finish = whole.1.finish) ∧
      (chosen'.preamble = chosen.preamble → chosen'.sort = chosen.sort →
        whole'.1.finish.map Compiled.text = whole.1.finish.map Compiled.text) ∧
      (chosen'.sort = chosen.sort → chosen'.startIndex = chosen.startIndex →
        chosen'.limit = chosen.limit →
        whole'.1.finish.map Compiled.request? = whole.1.finish.map Compiled.request?) ∧
      whole'.1.finish.map Compiled.searchText? = whole.1.finish.map Compiled.searchText? ∧
      whole'.1.finish.map Compiled.condition? = whole.1.finish.map Compiled.condition? := by
  intro whole alone chosen
  have answers : clauseAnswers script whole.2 = alone.2 :=
    (play_withChoices (start settings).choices (start settings) script).2
  have ends : whole.1.finish = alone.1.finish.map (Compiled.withChoices chosen) :=
    finish_play (start settings).choices (start settings) script
  refine ⟨answers, ends, fun preamble script' same => ?_⟩
  intro whole' chosen'
  -- The other pass begins as this one does, with another choice of the preamble.
  let begun := (start { settings with preamble }).choices
  have answers' : clauseAnswers script' whole'.2 = alone.2 := by
    have played := (play_withChoices begun (start settings) script').2
    rwa [same] at played
  have ends' : whole'.1.finish = alone.1.finish.map (Compiled.withChoices chosen') := by
    have finished := finish_play begun (start settings) script'
    rwa [same] at finished
  rw [answers, answers', ends, ends']
  refine ⟨rfl, fun equal => by rw [equal], fun preamble sort => ?_,
    fun sort startIndex limit => ?_, ?_, ?_⟩
  · exact Compiled.map_withChoices_congr fun compiled => compiled.text_withChoices preamble sort
  · exact Compiled.map_withChoices_congr fun compiled =>
      compiled.request?_withChoices sort startIndex limit
  · exact Compiled.map_withChoices_congr fun compiled => by
      rw [compiled.searchText?_withChoices, compiled.searchText?_withChoices]
  · exact Compiled.map_withChoices_congr fun compiled => by
      rw [compiled.condition?_withChoices, compiled.condition?_withChoices]

/-- Choices that are made within a group, one of them anew, against choices that are made before
anything else. The second group is refused in both scripts. -/
theorem choices_apart_from_clauses_regrouped :
    let resolver := ({} : FieldTable).resolve
    let preamble := "SELECT p FROM Product p"
    let sort := [⟨"p.name", .descending⟩]
    let cheap : Option FamilyQuery :=
      some (.relational (.comparison "p.price" .less (.number "9.50")))
    let scattered : List Step := [.setLimit 100, .openGroup .none, .setSort sort,
      .addClause .none cheap .less, .setLimit 20, .openGroup .none, .closeGroup]
    let gathered : List Step := [.setPreamble preamble, .setLimit 20, .setSort sort,
      .openGroup .none, .addClause .none cheap .less, .openGroup .none, .closeGroup]
    ((start { dialect := .sql }).run resolver gathered).1.finish =
      ((start { dialect := .sql, preamble := some preamble }).run resolver scattered).1.finish := by
  intro resolver preamble sort cheap scattered gathered
  have result := (choices_apart_from_clauses { dialect := .sql, preamble := some preamble }
    (scattered.map fun step => (resolver, step))).2.2 none
    (gathered.map fun step => (resolver, step)) rfl
  rw [play_eq_run, play_eq_run] at result
  exact result.2.1 rfl

end Pass
end FieldQuery
