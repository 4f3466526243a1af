import FieldQuery.Level
import FieldQuery.Relational.Statement
import FieldQuery.Search.Request

/-!
One compilation from start to end. Terms are taken in the order in which they are read; a group
opens a level of its own, which becomes one clause of the level around it when it is closed. A step
that is refused leaves the pass usable, and the steps are data, so that a script of them can be run
and reasoned about. The result is ready to be sent to a database or a search engine.
-/

namespace FieldQuery

inductive Compiled where
  | relational (statement : Relational.Statement)
  | search (request : Search.Request)

namespace Compiled

/-- No term is left and everything is selected. -/
def isMatchAll : Compiled → Bool
  | .relational statement => statement.clauses.isEmpty
  | .search request => request.query.isMatchAll

def sort : Compiled → List SortClause
  | .relational statement => statement.sort
  | .search request => request.sort

/-- The order of a search is no part of its text. -/
def text : Compiled → String
  | .relational statement => statement.text
  | .search request => request.query.text

end Compiled

/-- A group that is not closed yet, with the conjunction it was opened by. -/
structure OpenGroup where
  conjunction : Conjunction
  level : Level

structure Pass where
  settings : Settings
  root : Level
  /-- The innermost group first. -/
  groups : List OpenGroup
  sort : List SortClause
  startIndex : Option Nat
  limit : Option Nat

namespace Pass

/-- Begins without a check of the settings. -/
def start (settings : Settings) : Pass :=
  { settings, root := .start settings.dialect, groups := [], sort := [], startIndex := none,
    limit := none }

def ofDialect (dialect : Dialect) : Pass := start { dialect }

def begin (settings : Settings) : Except Error Pass := do
  settings.check
  return start settings

/-- The level that the next term goes to. -/
def current (pass : Pass) : Level :=
  match pass.groups with
  | [] => pass.root
  | group :: _ => group.level

def setCurrent (pass : Pass) (level : Level) : Pass :=
  match pass.groups with
  | [] => { pass with root := level }
  | group :: outer => { pass with groups := { group with level } :: outer }

/-- Takes in a term that is compiled already; without a query it is only counted. -/
def addClause (pass : Pass) (conjunction : Conjunction) (query : Option FamilyQuery)
    (operator : Operator) : Reply Pass :=
  let reply := pass.current.add conjunction query operator
  ⟨pass.setCurrent reply.state, reply.refusal⟩

/-- The query of a term, which may be none. -/
def compileTerm (pass : Pass) (resolver : Resolver) (term : Term) :
    Except Error (Option FamilyQuery) := do
  let resolved ← resolver term
  FamilyQuery.ofTerm? pass.settings resolved term.operator

/-- The position of the conjunction is checked before the term is resolved. -/
def addTerm (pass : Pass) (resolver : Resolver) (conjunction : Conjunction) (term : Term) :
    Reply Pass :=
  match pass.current.refusal? conjunction with
  | some error => ⟨pass, some error⟩
  | none =>
    match pass.compileTerm resolver term with
    | .error error => ⟨pass, some error⟩
    | .ok query => pass.addClause conjunction query term.operator

def openGroup (pass : Pass) (conjunction : Conjunction) : Reply Pass :=
  match pass.current.refusal? conjunction with
  | some error => ⟨pass, some error⟩
  | none =>
    ⟨{ pass with groups := ⟨conjunction, .start pass.settings.dialect⟩ :: pass.groups }, none⟩

/-- Closes the innermost group and adds it to the level around it as one clause. -/
def closeGroup (pass : Pass) : Reply Pass :=
  match pass.groups with
  | [] => ⟨pass, some (.unbalancedGroup .nothingToClose)⟩
  | group :: outer =>
    { pass with groups := outer }.addClause group.conjunction group.level.clauses.group? .equal

def setPreamble (pass : Pass) (preamble : String) : Pass :=
  { pass with settings := { pass.settings with preamble := some preamble } }

inductive Step where
  | addTerm (conjunction : Conjunction) (term : Term)
  | addClause (conjunction : Conjunction) (query : Option FamilyQuery) (operator : Operator)
  | openGroup (conjunction : Conjunction)
  | closeGroup
  | setSort (sort : List SortClause)
  | setLimit (limit : Nat)
  | setStartIndex (startIndex : Nat)
  | setPreamble (preamble : String)

def step (resolver : Resolver) (pass : Pass) : Step → Reply Pass
  | .addTerm conjunction term => pass.addTerm resolver conjunction term
  | .addClause conjunction query operator => pass.addClause conjunction query operator
  | .openGroup conjunction => pass.openGroup conjunction
  | .closeGroup => pass.closeGroup
  | .setSort sort => ⟨{ pass with sort }, none⟩
  | .setLimit limit => ⟨{ pass with limit := some limit }, none⟩
  | .setStartIndex startIndex => ⟨{ pass with startIndex := some startIndex }, none⟩
  | .setPreamble preamble => ⟨pass.setPreamble preamble, none⟩

/-- Runs all steps, whether or not some are refused; the answers are in the order of the steps. -/
def run (resolver : Resolver) (pass : Pass) : List Step → Pass × List (Option Error)
  | [] => (pass, [])
  | s :: steps =>
    let reply := pass.step resolver s
    let rest := run resolver reply.state steps
    (rest.1, reply.refusal :: rest.2)

def finish (pass : Pass) : Except Error Compiled :=
  if !pass.groups.isEmpty then .error (.unbalancedGroup .leftOpen)
  else match pass.root.clauses with
    | .relational dialect clauses => .ok (.relational
        { dialect, preamble := pass.settings.preamble, clauses, sort := pass.sort,
          startIndex := pass.startIndex, limit := pass.limit })
    | .search fold => .ok (.search
        { query := fold.query, sort := pass.sort, startIndex := pass.startIndex,
          limit := pass.limit })

/-- Closes every open group. -/
def closeAll (pass : Pass) : Pass :=
  Nat.repeat (fun p => p.closeGroup.state) pass.groups.length pass

/-- Adds terms until one is refused. -/
def addTerms (resolver : Resolver) (pass : Pass) : List (Conjunction × Term) → Except Error Pass
  | [] => .ok pass
  | (conjunction, term) :: terms =>
    match pass.addTerm resolver conjunction term with
    | ⟨next, none⟩ => addTerms resolver next terms
    | ⟨_, some error⟩ => .error error

end Pass

/-- Compiles a flat list of terms at once. -/
def compile (settings : Settings) (resolver : Resolver) (terms : List (Conjunction × Term))
    (sort : List SortClause) : Except Error Compiled := do
  let pass ← Pass.begin settings
  let pass ← pass.addTerms resolver terms
  Pass.finish { pass with sort }

end FieldQuery
