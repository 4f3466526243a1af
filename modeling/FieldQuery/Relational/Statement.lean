import FieldQuery.Relational.Query

/-!
Relational queries in writing. The two dialects differ in temporal literals only. A list of clauses
is written without parentheses of its own, so that in it AND binds more tightly than OR. A finished
statement has a preamble of the caller's, the condition and the order, each of them optional.
-/

namespace FieldQuery
namespace Relational

open Calendar

/-- A single quote inside a string is written twice. -/
def doubleQuotes (cs : List Char) : List Char :=
  cs.flatMap fun c => if c = '\x27' then ['\x27', '\x27'] else [c]

def enquote (cs : List Char) : List Char := '\x27' :: cs ++ ['\x27']

def dateLiteral (dialect : RelationalDialect) (date : List Char) : List Char :=
  match dialect with
  | .jpql => "\x7bd ".toList ++ enquote date ++ ['\x7d']
  | .sql => "DATE ".toList ++ enquote date

def momentLiteral (dialect : RelationalDialect) (moment : List Char) : List Char :=
  match dialect with
  | .jpql => "\x7bts ".toList ++ enquote moment ++ ['\x7d']
  | .sql => "TIMESTAMP ".toList ++ enquote moment

def Literal.chars (dialect : RelationalDialect) : Literal → List Char
  | .string value => enquote (doubleQuotes value.toList)
  | .number digits => digits.toList
  | .boolean true => "TRUE".toList
  | .boolean false => "FALSE".toList
  | .date d => dateLiteral dialect d.chars
  | .moment m => momentLiteral dialect m.chars

def comparisonChars (dialect : RelationalDialect) (field : String) (operator : Operator)
    (literal : Literal) : List Char :=
  field.toList ++ ' ' :: operator.token.toList ++ ' ' :: literal.chars dialect

def inListChars (dialect : RelationalDialect) (field : String) (negated : Bool)
    (literals : List Literal) : List Char :=
  field.toList ++ (if negated then " NOT IN (" else " IN (").toList
    ++ [',', ' '].intercalate (literals.map (Literal.chars dialect)) ++ [')']

/-- What stands before the first clause of a list. -/
def opener : Conjunction → String
  | .not => "NOT "
  | .none | .and | .or => ""

/-- What stands between a later clause and the one before it. -/
def joiner : Conjunction → String
  | .or => " OR "
  | .not => " AND NOT "
  | .none | .and => " AND "

mutual

def Query.chars (dialect : RelationalDialect) : Query → List Char
  | .comparison field operator literal => comparisonChars dialect field operator literal
  | .inList field negated literals => inListChars dialect field negated literals
  | .group clauses => '(' :: clausesChars dialect clauses ++ [')']

def clausesChars (dialect : RelationalDialect) : List Clause → List Char
  | [] => []
  | ⟨conjunction, query⟩ :: clauses =>
    (opener conjunction).toList ++ query.chars dialect ++ joinedChars dialect clauses

/-- The clauses after the first of a list. -/
def joinedChars (dialect : RelationalDialect) : List Clause → List Char
  | [] => []
  | ⟨conjunction, query⟩ :: clauses =>
    (joiner conjunction).toList ++ query.chars dialect ++ joinedChars dialect clauses

end

def Literal.text (dialect : RelationalDialect) (l : Literal) : String :=
  String.ofList (l.chars dialect)

def Query.text (dialect : RelationalDialect) (q : Query) : String :=
  String.ofList (q.chars dialect)

def clausesText (dialect : RelationalDialect) (clauses : List Clause) : String :=
  String.ofList (clausesChars dialect clauses)

def sortKeyword : SortDirection → String
  | .ascending => "ASC"
  | .descending => "DESC"

def sortChars (sort : List SortClause) : List Char :=
  [',', ' '].intercalate
    (sort.map fun s => s.field.toList ++ ' ' :: (sortKeyword s.direction).toList)

def sortText (sort : List SortClause) : String := String.ofList (sortChars sort)

structure Statement where
  dialect : RelationalDialect
  preamble : Option String
  clauses : List Clause
  sort : List SortClause
  startIndex : Option Nat
  limit : Option Nat

namespace Statement

/-- The condition without its keyword; without clauses nothing is filtered. -/
def condition? (s : Statement) : Option String :=
  if s.clauses.isEmpty then none else some (clausesText s.dialect s.clauses)

/-- The order without its keyword. -/
def order? (s : Statement) : Option String :=
  if s.sort.isEmpty then none else some (sortText s.sort)

/-- The preamble without surrounding blanks, if anything is left of it. -/
def preamble? (s : Statement) : Option String :=
  (s.preamble.map Text.trimText).filter fun p => !p.isEmpty

def parts (s : Statement) : List String :=
  s.preamble?.toList ++ (s.condition?.map fun c => "WHERE " ++ c).toList
    ++ (s.order?.map fun o => "ORDER BY " ++ o).toList

def text (s : Statement) : String := " ".intercalate s.parts

end Statement
end Relational
end FieldQuery
