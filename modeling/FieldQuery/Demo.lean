import FieldQuery.Pass
import FieldQuery.Settings

/-!
A demonstration: one sample expression over a small product catalogue, compiled for every dialect.
A run is a value, with the lines for standard output and the way it ended, so that the command
itself only prints.
-/

namespace FieldQuery
namespace Demo

def catalogue : FieldTable :=
  (({} : FieldTable)
    |>.insert "CatalogCode" ⟨"c.catalogCode", .string, false, false⟩
    |>.insert "ListPrice" ⟨"c.listPrice", .decimal, false, false⟩
    |>.insert "StartDate" ⟨"c.startDate", .date, false, false⟩
    |>.insertAnalyzed "ProductName" ⟨"c.productName", .text, false, false⟩)

/-- Products of the sports catalogue above a price, without those that start before a date or have a
certain name. -/
def sample : List Pass.Step :=
  [.addTerm .none ⟨"CatalogCode", .equal, ["Sports"]⟩,
   .addTerm .and ⟨"ListPrice", .more, ["10.00"]⟩,
   .openGroup .not,
   .addTerm .none ⟨"StartDate", .less, ["2024-01-01"]⟩,
   .addTerm .or ⟨"ProductName", .equal, ["Tennis Racket"]⟩,
   .closeGroup,
   .setSort [⟨"c.listPrice", .descending⟩]]

/-- Runs steps until one is refused. -/
def runSteps (pass : Pass) : List Pass.Step → Except Error Pass
  | [] => .ok pass
  | step :: steps =>
    match pass.step catalogue.resolve step with
    | ⟨next, none⟩ => runSteps next steps
    | ⟨_, some error⟩ => .error error

def compileSample (settings : Settings) : Except Error Compiled := do
  let pass ← Pass.begin settings
  let pass ← runSteps pass sample
  pass.finish

def defaultPreamble : String := "SELECT c FROM CatalogImpl c"

def linesFor (dialect : Dialect) : Compiled → List String
  | .relational statement => [dialect.name ++ ": " ++ statement.text]
  | .search request =>
    (dialect.name ++ ": " ++ request.query.text)
      :: (request.sortParameter?.map fun sort => dialect.name ++ " sort: " ++ sort).toList

structure Run where
  lines : List String
  error : Option Error

/-- One dialect after the other; the first error ends the run and keeps the lines before it. -/
def runDialects (settings : Settings) : List Dialect → Run
  | [] => ⟨[], none⟩
  | dialect :: dialects =>
    let preamble := settings.preamble.getD defaultPreamble
    match compileSample { settings with dialect, preamble := some preamble } with
    | .error error => ⟨[], some error⟩
    | .ok compiled =>
      let rest := runDialects settings dialects
      ⟨linesFor dialect compiled ++ rest.lines, rest.error⟩

def run (settings : Except Error Settings) : Run :=
  match settings with
  | .error error => ⟨[], some error⟩
  | .ok settings => runDialects settings [.jpql, .sql, .search]

/-- Settings whose file cannot be found. -/
def missingFile (path : String) : Error :=
  .settings (.unreadable path "No such file or directory (os error 2)")

/-- A date that cannot be written is a failure of its own kind. -/
def Run.exitCode (run : Run) : Nat :=
  match run.error with
  | none => 0
  | some (.unwritableDate _) => 101
  | some _ => 1

end Demo
end FieldQuery
