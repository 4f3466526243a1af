/-!
The target languages. Two of them are relational and share their query trees; the third addresses a
search index.
-/

namespace FieldQuery

inductive Dialect where
  | jpql
  | sql
  | search
  deriving DecidableEq

inductive RelationalDialect where
  | jpql
  | sql
  deriving DecidableEq

inductive Family where
  | relational
  | search
  deriving DecidableEq

def Family.name : Family → String
  | .relational => "relational"
  | .search => "search"

def RelationalDialect.name : RelationalDialect → String
  | .jpql => "Jpql"
  | .sql => "Sql"

namespace Dialect

def relational? : Dialect → Option RelationalDialect
  | .jpql => some .jpql
  | .sql => some .sql
  | .search => none

def family : Dialect → Family
  | .jpql | .sql => .relational
  | .search => .search

def name : Dialect → String
  | .jpql => "Jpql"
  | .sql => "Sql"
  | .search => "Search"

/-- Reads the spelling used in settings. -/
def ofKey? : String → Option Dialect
  | "jpql" => some .jpql
  | "sql" => some .sql
  | "search" => some .search
  | _ => none

end Dialect
end FieldQuery
