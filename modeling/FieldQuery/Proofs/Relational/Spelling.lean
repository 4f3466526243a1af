import FieldQuery.Proofs.Text.Readers
import FieldQuery.Relational.Statement

/-!
What the two relational dialects have in common in writing. A text is a row of pieces, and the
dialect has a say in those pieces only that are temporal literals: it decides what stands around the
quoted date. The pieces themselves are the same for both, so that one text turns into the other when
each temporal literal is spelled anew in its place.
-/

namespace FieldQuery
namespace Relational

open Calendar

inductive Piece where
  | plain (cs : List Char)
  | date (date : Date)
  | moment (moment : Moment)

namespace Piece

def chars (dialect : RelationalDialect) : Piece → List Char
  | .plain cs => cs
  | .date d =>
    match dialect with
    | .jpql => "\x7bd '".toList ++ d.chars ++ "'\x7d".toList
    | .sql => "DATE '".toList ++ d.chars ++ "'".toList
  | .moment m =>
    match dialect with
    | .jpql => "\x7bts '".toList ++ m.chars ++ "'\x7d".toList
    | .sql => "TIMESTAMP '".toList ++ m.chars ++ "'".toList

/-- The temporal literal that the piece is, if it is one. -/
def temporals : Piece → List Literal
  | .plain _ => []
  | .date d => [.date d]
  | .moment m => [.moment m]

@[simp] theorem chars_plain (dialect : RelationalDialect) (cs : List Char) :
    (plain cs).chars dialect = cs := rfl

@[simp] theorem temporals_plain (cs : List Char) : (plain cs).temporals = [] := rfl

theorem chars_eq_of_temporals_eq_nil {piece : Piece} (none : piece.temporals = [])
    (dialect other : RelationalDialect) : piece.chars dialect = piece.chars other := by
  cases piece with
  | plain cs => rfl
  | date _ | moment _ => cases none

end Piece

/-- The text that pieces make in a dialect. -/
def spelled (dialect : RelationalDialect) (pieces : List Piece) : List Char :=
  pieces.flatMap (Piece.chars dialect)

def Literal.isTemporal : Literal → Bool
  | .date _ | .moment _ => true
  | .string _ | .number _ | .boolean _ => false

/-- Where the literal is not temporal, one dialect's way to write it is that of both. -/
def Literal.piece : Literal → Piece
  | .date d => .date d
  | .moment m => .moment m
  | literal => .plain (literal.chars .sql)

mutual

def Query.pieces : Query → List Piece
  | .comparison field operator literal =>
    [.plain (field.toList ++ ' ' :: operator.token.toList ++ [' ']), literal.piece]
  | .inList field negated literals =>
    .plain (field.toList ++ (if negated then " NOT IN (" else " IN (").toList)
      :: [Piece.plain [',', ' ']].intercalate (literals.map fun l => [l.piece])
      ++ [.plain [')']]
  | .group clauses => .plain ['('] :: clausesPieces clauses ++ [.plain [')']]

def clausesPieces : List Clause → List Piece
  | [] => []
  | ⟨conjunction, query⟩ :: clauses =>
    .plain (opener conjunction).toList :: query.pieces ++ joinedPieces clauses

def joinedPieces : List Clause → List Piece
  | [] => []
  | ⟨conjunction, query⟩ :: clauses =>
    .plain (joiner conjunction).toList :: query.pieces ++ joinedPieces clauses

end

mutual

/-- The literals of a query from left to right, those inside its groups included. -/
def Query.literals : Query → List Literal
  | .comparison _ _ literal => [literal]
  | .inList _ _ literals => literals
  | .group clauses => clausesLiterals clauses

def clausesLiterals : List Clause → List Literal
  | [] => []
  | ⟨_, query⟩ :: clauses => query.literals ++ clausesLiterals clauses

end

section Pieces

theorem enquote_between (before cs after : List Char) :
    (before ++ ['\x27']) ++ cs ++ ('\x27' :: after) = before ++ enquote cs ++ after := by
  simp [enquote]

theorem Piece.chars_date (dialect : RelationalDialect) (d : Date) :
    (Piece.date d).chars dialect = dateLiteral dialect d.chars := by
  cases dialect with
  | jpql => exact enquote_between "\x7bd ".toList d.chars ['\x7d']
  | sql => exact (enquote_between "DATE ".toList d.chars []).trans (List.append_nil _)

theorem Piece.chars_moment (dialect : RelationalDialect) (m : Moment) :
    (Piece.moment m).chars dialect = momentLiteral dialect m.chars := by
  cases dialect with
  | jpql => exact enquote_between "\x7bts ".toList m.chars ['\x7d']
  | sql => exact (enquote_between "TIMESTAMP ".toList m.chars []).trans (List.append_nil _)

theorem Literal.chars_piece (dialect : RelationalDialect) (literal : Literal) :
    literal.piece.chars dialect = literal.chars dialect := by
  cases literal with
  | boolean value => cases value <;> rfl
  | string _ | number _ => rfl
  | date d => exact Piece.chars_date dialect d
  | moment m => exact Piece.chars_moment dialect m

theorem Literal.temporals_piece (literal : Literal) :
    literal.piece.temporals = [literal].filter isTemporal := by
  cases literal <;> rfl

theorem flatMap_members {β : Type} (f : Piece → List β) (literals : List Literal) :
    ([Piece.plain [',', ' ']].intercalate (literals.map fun l => [l.piece])).flatMap f =
      (f (.plain [',', ' '])).intercalate (literals.map fun l => f l.piece) := by
  simp [Text.flatMap_intercalate, Function.comp_def]

mutual

theorem Query.spelled_pieces (dialect : RelationalDialect) :
    ∀ query : Query, spelled dialect query.pieces = query.chars dialect
  | .comparison field operator literal => by
      simp [spelled, Query.chars, comparisonChars, Query.pieces, Literal.chars_piece]
  | .inList field negated literals => by
      simp [spelled, Query.chars, inListChars, Query.pieces, flatMap_members, Literal.chars_piece]
  | .group clauses => by
      have inner := spelled_clausesPieces dialect clauses
      simp_all [spelled, Query.chars, Query.pieces]

theorem spelled_clausesPieces (dialect : RelationalDialect) :
    ∀ clauses : List Clause, spelled dialect (clausesPieces clauses) = clausesChars dialect clauses
  | [] => rfl
  | ⟨conjunction, query⟩ :: clauses => by
      have first := Query.spelled_pieces dialect query
      have others := spelled_joinedPieces dialect clauses
      simp_all [spelled, clausesChars, clausesPieces]

theorem spelled_joinedPieces (dialect : RelationalDialect) :
    ∀ clauses : List Clause, spelled dialect (joinedPieces clauses) = joinedChars dialect clauses
  | [] => rfl
  | ⟨conjunction, query⟩ :: clauses => by
      have first := Query.spelled_pieces dialect query
      have others := spelled_joinedPieces dialect clauses
      simp_all [spelled, joinedChars, joinedPieces]

end

mutual

theorem Query.temporals_pieces :
    ∀ query : Query, query.pieces.flatMap Piece.temporals = query.literals.filter Literal.isTemporal
  | .comparison field operator literal => by
      simp [Query.pieces, Query.literals, Literal.temporals_piece]
  | .inList field negated literals => by
      have members : (literals.map fun l => [l].filter Literal.isTemporal).flatten =
          literals.filter Literal.isTemporal := by
        rw [← List.flatMap_def, ← List.filter_flatMap, List.flatMap_singleton']
      simp [Query.pieces, Query.literals, flatMap_members, Literal.temporals_piece,
        Text.nil_intercalate, members]
  | .group clauses => by
      simp [Query.pieces, Query.literals, temporals_clausesPieces clauses]

theorem temporals_clausesPieces :
    ∀ clauses : List Clause,
      (clausesPieces clauses).flatMap Piece.temporals =
        (clausesLiterals clauses).filter Literal.isTemporal
  | [] => rfl
  | ⟨conjunction, query⟩ :: clauses => by
      simp [clausesPieces, clausesLiterals, Query.temporals_pieces query,
        temporals_joinedPieces clauses]

theorem temporals_joinedPieces :
    ∀ clauses : List Clause,
      (joinedPieces clauses).flatMap Piece.temporals =
        (clausesLiterals clauses).filter Literal.isTemporal
  | [] => rfl
  | ⟨conjunction, query⟩ :: clauses => by
      simp [joinedPieces, clausesLiterals, Query.temporals_pieces query,
        temporals_joinedPieces clauses]

end

theorem spelled_eq_of_temporals_eq_nil {pieces : List Piece}
    (none : pieces.flatMap Piece.temporals = []) (dialect other : RelationalDialect) :
    spelled dialect pieces = spelled other pieces := by
  rw [spelled, spelled, List.flatMap_def, List.flatMap_def]
  refine congrArg List.flatten (List.map_congr_left fun piece mem => ?_)
  exact Piece.chars_eq_of_temporals_eq_nil (List.flatMap_eq_nil_iff.mp none piece mem) dialect other

end Pieces

namespace Statement

/-- The pieces of each part of a statement. Its dialect is not asked for them. -/
def partPieces (s : Statement) : List (List Piece) :=
  s.preamble?.toList.map (fun p => [.plain p.toList])
    ++ (if s.clauses.isEmpty then [] else [.plain "WHERE ".toList :: clausesPieces s.clauses])
    ++ s.order?.toList.map fun o => [.plain ("ORDER BY " ++ o).toList]

def pieces (s : Statement) : List Piece := [Piece.plain [' ']].intercalate s.partPieces

theorem text_eq_spelled (s : Statement) : s.text = String.ofList (spelled s.dialect s.pieces) := by
  have body : (clausesPieces s.clauses).flatMap (Piece.chars s.dialect) =
      clausesChars s.dialect s.clauses := spelled_clausesPieces s.dialect s.clauses
  have each : s.partPieces.map (List.flatMap (Piece.chars s.dialect)) =
      s.parts.map String.toList := by
    cases preamble : s.preamble? <;> cases order : s.order? <;>
      by_cases empty : s.clauses.isEmpty = true <;>
      simp [partPieces, parts, condition?, clausesText, preamble, order, empty, body]
  have space : " ".toList = [' '] := rfl
  rw [← String.toList_inj, String.toList_ofList, text, String.toList_intercalate, ← each, space,
    spelled, pieces, Text.flatMap_intercalate]
  rfl

theorem temporals_pieces (s : Statement) :
    s.pieces.flatMap Piece.temporals = (clausesLiterals s.clauses).filter Literal.isTemporal := by
  have body := temporals_clausesPieces s.clauses
  rw [pieces, Text.flatMap_intercalate, List.flatMap_singleton, Piece.temporals_plain,
    Text.nil_intercalate]
  cases preamble : s.preamble? <;> cases order : s.order? <;>
    by_cases empty : s.clauses.isEmpty = true <;>
    simp_all [partPieces, clausesLiterals]

/-- The dialect of a statement matters for its temporal literals alone. -/
theorem text_eq_of_no_temporals {s : Statement} (none : ∀ literal ∈ clausesLiterals s.clauses,
    literal.isTemporal = false) (dialect other : RelationalDialect) :
    { s with dialect }.text = { s with dialect := other }.text := by
  have plain : s.pieces.flatMap Piece.temporals = [] := by
    rw [temporals_pieces, List.filter_eq_nil_iff]
    simpa using none
  rw [text_eq_spelled, text_eq_spelled]
  exact congrArg String.ofList (spelled_eq_of_temporals_eq_nil plain dialect other)

end Statement

end Relational
end FieldQuery
