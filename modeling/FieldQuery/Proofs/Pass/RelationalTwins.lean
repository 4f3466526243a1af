import FieldQuery.Proofs.Pass.Refusals
import FieldQuery.Proofs.Relational.Spelling

/-!
The same script in the two relational dialects. A pass remembers its dialect in its settings and in
every level, but reads it only to learn that it is relational and to begin the level of a group. So
moving a pass from one dialect to the other and taking a step commute: both passes give the same
answers all along and end with the same statement, which is printed with other temporal literals.
-/

namespace FieldQuery

def RelationalDialect.dialect : RelationalDialect → Dialect
  | .jpql => .jpql
  | .sql => .sql

@[simp] theorem RelationalDialect.relational?_dialect (kind : RelationalDialect) :
    kind.dialect.relational? = some kind := by
  cases kind <;> rfl

@[simp] theorem RelationalDialect.family_dialect (kind : RelationalDialect) :
    kind.dialect.family = .relational := by
  cases kind <;> rfl

namespace Level

/-- Relational clauses as a level of the given dialect holds them. -/
def Clauses.inDialect (kind : RelationalDialect) : Clauses → Clauses
  | .relational _ clauses => .relational kind clauses
  | .search fold => .search fold

theorem Clauses.inDialect_empty (kind : RelationalDialect) {dialect : Dialect}
    (relational : dialect.family = .relational) :
    (empty dialect).inDialect kind = empty kind.dialect := by
  cases kind <;> cases dialect <;> first | rfl | cases relational

@[simp] theorem Clauses.family_inDialect (kind : RelationalDialect) (clauses : Clauses) :
    (clauses.inDialect kind).family = clauses.family := by
  cases clauses <;> rfl

@[simp] theorem Clauses.group?_inDialect (kind : RelationalDialect) (clauses : Clauses) :
    (clauses.inDialect kind).group? = clauses.group? := by
  cases clauses with
  | relational dialect clauses => cases clauses <;> rfl
  | search fold => rfl

theorem Clauses.add?_inDialect (kind : RelationalDialect) (clauses : Clauses)
    (conjunction : Conjunction) (query : FamilyQuery) (operator : Operator) :
    (clauses.inDialect kind).add? conjunction query operator =
      (clauses.add? conjunction query operator).map (inDialect kind) := by
  cases clauses <;> cases query <;> rfl

def inDialect (kind : RelationalDialect) (level : Level) : Level :=
  ⟨level.termsSeen, level.clauses.inDialect kind⟩

theorem inDialect_start (kind : RelationalDialect) {dialect : Dialect}
    (relational : dialect.family = .relational) :
    (start dialect).inDialect kind = start kind.dialect := by
  simp only [inDialect, start, Clauses.inDialect_empty kind relational]

@[simp] theorem refusal?_inDialect (kind : RelationalDialect) (level : Level)
    (conjunction : Conjunction) :
    (level.inDialect kind).refusal? conjunction = level.refusal? conjunction := rfl

theorem add_inDialect (kind : RelationalDialect) (level : Level) (conjunction : Conjunction)
    (query : Option FamilyQuery) (operator : Operator) :
    (level.inDialect kind).add conjunction query operator =
      ⟨(level.add conjunction query operator).state.inDialect kind,
        (level.add conjunction query operator).refusal⟩ := by
  cases refused : level.refusal? conjunction with
  | some error => simp only [Level.add, refusal?_inDialect, refused]
  | none =>
      cases query with
      | none => simp only [Level.add, refusal?_inDialect, refused]; rfl
      | some q =>
          have added := level.clauses.add?_inDialect kind conjunction q operator
          cases taken : level.clauses.add? conjunction q operator <;> rw [taken] at added
          · simp only [Level.add, refusal?_inDialect, refused, taken]
            simp only [inDialect, added, Option.map_none, Clauses.family_inDialect]
          · simp only [Level.add, refusal?_inDialect, refused, taken]
            simp only [inDialect, added, Option.map_some]

end Level

def Compiled.inDialect (kind : RelationalDialect) : Compiled → Compiled
  | .relational statement => .relational { statement with dialect := kind }
  | .search request => .search request

namespace Pass

/-- The pass as it would be had it begun in the given dialect. -/
def inDialect (kind : RelationalDialect) (pass : Pass) : Pass :=
  { pass with
    settings := { pass.settings with dialect := kind.dialect }
    root := pass.root.inDialect kind
    groups := pass.groups.map fun group => ⟨group.conjunction, group.level.inDialect kind⟩ }

variable (kind : RelationalDialect)

@[simp] theorem current_inDialect (pass : Pass) :
    (pass.inDialect kind).current = pass.current.inDialect kind := by
  obtain ⟨settings, root, groups, sort, startIndex, limit⟩ := pass
  cases groups <;> rfl

theorem setCurrent_inDialect (pass : Pass) (level : Level) :
    (pass.inDialect kind).setCurrent (level.inDialect kind) =
      (pass.setCurrent level).inDialect kind := by
  obtain ⟨settings, root, groups, sort, startIndex, limit⟩ := pass
  cases groups <;> rfl

theorem push_inDialect (pass : Pass) (conjunction : Conjunction) (level : Level) :
    (pass.inDialect kind).push conjunction (level.inDialect kind) =
      (pass.push conjunction level).inDialect kind := rfl

theorem addClause_inDialect (pass : Pass) (conjunction : Conjunction)
    (query : Option FamilyQuery) (operator : Operator) :
    (pass.inDialect kind).addClause conjunction query operator =
      ⟨(pass.addClause conjunction query operator).state.inDialect kind,
        (pass.addClause conjunction query operator).refusal⟩ := by
  simp only [addClause, current_inDialect, Level.add_inDialect, setCurrent_inDialect]

theorem compileTerm_inDialect {pass : Pass}
    (relational : pass.settings.dialect.family = .relational) (resolver : Resolver) (term : Term) :
    (pass.inDialect kind).compileTerm resolver term = pass.compileTerm resolver term := by
  simp only [compileTerm, FamilyQuery.ofTerm?, inDialect, RelationalDialect.family_dialect,
    relational]

theorem step_inDialect {pass : Pass} (relational : pass.settings.dialect.family = .relational)
    (resolver : Resolver) (step : Step) :
    (pass.inDialect kind).step resolver step =
      ⟨(pass.step resolver step).state.inDialect kind, (pass.step resolver step).refusal⟩ := by
  cases step with
  | addTerm conjunction term =>
      simp only [Pass.step, addTerm, current_inDialect, Level.refusal?_inDialect,
        compileTerm_inDialect kind relational]
      split
      · rfl
      · split
        · rfl
        · exact addClause_inDialect kind pass ..
  | addClause conjunction query operator => exact addClause_inDialect kind pass ..
  | openGroup conjunction =>
      cases free : pass.current.refusal? conjunction with
      | some error => simp [Pass.step, openGroup, free]
      | none =>
          have free' : (pass.inDialect kind).current.refusal? conjunction = none := by
            rwa [current_inDialect, Level.refusal?_inDialect]
          simp only [Pass.step, openGroup_eq_push free, openGroup_eq_push free',
            ← push_inDialect, Level.inDialect_start kind relational]
          rfl
  | closeGroup =>
      obtain none | ⟨outer, conjunction, level, rfl⟩ := pass.groups_eq_nil_or_push
      · have none' : (pass.inDialect kind).groups = [] := by simp [inDialect, none]
        simp only [Pass.step, closeGroup_eq_of_nil none, closeGroup_eq_of_nil none']
      · rw [Pass.step, Pass.step, ← push_inDialect, closeGroup_push, closeGroup_push]
        rw [Level.inDialect, Level.Clauses.group?_inDialect]
        exact addClause_inDialect kind outer ..
  | setSort _ | setLimit _ | setStartIndex _ | setPreamble _ => rfl

theorem play_inDialect (pass : Pass) (relational : pass.settings.dialect.family = .relational)
    (script : List (Resolver × Step)) :
    (pass.inDialect kind).play script =
      ((pass.play script).1.inDialect kind, (pass.play script).2) := by
  induction script generalizing pass with
  | nil => rfl
  | cons call script ih =>
      obtain ⟨resolver, step⟩ := call
      have still : (pass.step resolver step).state.settings.dialect.family = .relational := by
        rwa [dialect_step]
      simp only [play, step_inDialect kind relational, ih _ still]

theorem finish_inDialect (pass : Pass) :
    (pass.inDialect kind).finish = pass.finish.map (Compiled.inDialect kind) := by
  obtain ⟨settings, ⟨termsSeen, clauses⟩, groups, sort, startIndex, limit⟩ := pass
  cases groups with
  | nil => cases clauses <;> rfl
  | cons group outer => rfl

/-- A statement that is finished by a relational pass. -/
theorem Reached.finish_relational {settings : Settings} {pass : Pass}
    (reached : Reached settings pass) (own : settings.dialect = kind.dialect) {compiled : Compiled}
    (finished : pass.finish = .ok compiled) :
    ∃ statement : Relational.Statement,
      compiled = .relational statement ∧ statement.dialect = kind := by
  obtain ⟨_, finished', fits⟩ := finish_fits reached.levelsFit (groups_eq_nil_of_finish finished)
  cases finished.symm.trans finished'
  rw [reached.dialect_eq, own] at fits
  cases compiled with
  | relational statement => exact ⟨statement, rfl, by simpa [Compiled.Fits, eq_comm] using fits⟩
  | search request => simp [Compiled.Fits] at fits

/-- The two relational dialects answer alike to every step of every script and end in the same way,
with the same failure or with statements that are the same but for the dialect. The texts of these
are spelled from the same pieces, in which the temporal literals are those of the clauses, in their
order. Without temporal literals the texts are the same. -/
theorem jpql_sql_twins (settings : Settings) (script : List (Resolver × Step)) :
    let jpql := { settings with dialect := .jpql }
    let sql := { settings with dialect := .sql }
    jpql.check = sql.check ∧
    ((start jpql).play script).2 = ((start sql).play script).2 ∧
    ((∃ error, ((start jpql).play script).1.finish = .error error ∧
        ((start sql).play script).1.finish = .error error) ∨
      ∃ statement : Relational.Statement,
        ((start jpql).play script).1.finish =
            .ok (.relational { statement with dialect := .jpql }) ∧
        ((start sql).play script).1.finish =
            .ok (.relational { statement with dialect := .sql }) ∧
        { statement with dialect := .jpql }.text =
            String.ofList (Relational.spelled .jpql statement.pieces) ∧
        { statement with dialect := .sql }.text =
            String.ofList (Relational.spelled .sql statement.pieces) ∧
        statement.pieces.flatMap Relational.Piece.temporals =
            (Relational.clausesLiterals statement.clauses).filter Relational.Literal.isTemporal ∧
        ((∀ literal ∈ Relational.clausesLiterals statement.clauses, literal.isTemporal = false) →
          { statement with dialect := .jpql }.text =
            { statement with dialect := .sql }.text)) := by
  intro jpql sql
  have moved : start sql = (start jpql).inDialect .sql := rfl
  have twin := play_inDialect .sql (start jpql) rfl script
  have last := finish_inDialect .sql ((start jpql).play script).1
  rw [← moved] at twin
  refine ⟨rfl, by rw [twin], ?_⟩
  rw [twin]
  cases finished : ((start jpql).play script).1.finish with
  | error error => exact .inl ⟨error, rfl, by rw [last, finished]; rfl⟩
  | ok compiled =>
      obtain ⟨statement, rfl, own⟩ :=
        (Reached.start.played script).finish_relational .jpql rfl finished
      have same : { statement with dialect := .jpql } = statement := by rw [← own]
      refine .inr ⟨statement, by rw [same], by rw [last, finished]; rfl, ?_, ?_,
        statement.temporals_pieces,
        fun none => Relational.Statement.text_eq_of_no_temporals none ..⟩
      · exact Relational.Statement.text_eq_spelled _
      · exact Relational.Statement.text_eq_spelled _

example :
    let fields := (({} : FieldTable).insert "Day" ⟨"day", .date, false, false⟩).insert
      "Seen" ⟨"at", .dateTime, true, false⟩
    let script : List (Resolver × Step) :=
      [.addTerm .none ⟨"Day", .less, ["2024-01-31"]⟩, .openGroup .not,
        .addTerm .none ⟨"Seen", .equal, ["2024-01-31 09:05:00"]⟩,
        .closeGroup].map fun step => (fields.resolve, step)
    ((start { dialect := .jpql }).play script).1.finish.map Compiled.text =
        .ok "WHERE day < \x7bd '2024-01-31'\x7d AND NOT (at = \x7bts '2024-01-31 09:05:00'\x7d)" ∧
      ((start { dialect := .sql }).play script).1.finish.map Compiled.text =
        .ok "WHERE day < DATE '2024-01-31' AND NOT (at = TIMESTAMP '2024-01-31 09:05:00')" := by
  decide +kernel

end Pass
end FieldQuery
