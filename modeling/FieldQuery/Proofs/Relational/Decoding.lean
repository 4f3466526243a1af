import FieldQuery.Proofs.Relational.Reading

/-!
The text of a list of clauses can be read back, so that no value of a literal changes what a
statement asks for. A group ends at its parenthesis, and a list of clauses where neither joining
word follows. What is read back is all that the text shows: whether the first clause of a list is
negated, how each later one is joined, and every literal to the second. A leap second within a
minute is shown as the second after it.
-/

namespace FieldQuery
namespace Relational

open Calendar
open Text (Reader Reads Closes expect complete readName readSeries isName)

section Readers

/-- How the first clause of a list is marked. -/
def readOpener (cs : List Char) : Conjunction × List Char :=
  match "NOT ".toList.isPrefixOf? cs with
  | some cs => (.not, cs)
  | none => (.none, cs)

/-- How a later clause is joined. The longer mark is tried before the one that begins it. -/
def readJoiner (cs : List Char) : Option (Conjunction × List Char) :=
  (" AND NOT ".toList.isPrefixOf? cs).map (Conjunction.not, ·) <|>
    (" AND ".toList.isPrefixOf? cs).map (Conjunction.and, ·) <|>
    (" OR ".toList.isPrefixOf? cs).map (Conjunction.or, ·)

def readFirstClause (query : Reader Query) (cs : List Char) : Option (Clause × List Char) :=
  (query (readOpener cs).2).map fun r => (⟨(readOpener cs).1, r.1⟩, r.2)

def readNextClause (query : Reader Query) (cs : List Char) : Option (Clause × List Char) := do
  let (conjunction, cs) ← readJoiner cs
  let (query, cs) ← query cs
  return (⟨conjunction, query⟩, cs)

def readClauses (query : Reader Query) : List Char → List Clause × List Char :=
  readSeries (readFirstClause query) (readNextClause query)

/-- A query with at most `bound` parentheses around any part of it. -/
def readQueryWithin (dialect : RelationalDialect) : Nat → List Char → Option (Query × List Char)
  | bound + 1, '(' :: cs =>
    let inner := readClauses (readQueryWithin dialect bound) cs
    (expect ')' inner.2).map fun cs => (.group inner.1, cs)
  | _, cs => readCondition dialect cs

/-- The clauses of a list from its text. -/
def readClauses? (dialect : RelationalDialect) (text : String) : Option (List Clause) :=
  complete (readClauses (readQueryWithin dialect text.toList.length) text.toList)

end Readers

/-- Of the conjunction of a first clause only a negation is shown. -/
def shownOpener : Conjunction → Conjunction
  | .not => .not
  | .none | .and | .or => .none

/-- A later clause that names no conjunction is joined by the usual one. -/
def shownJoiner : Conjunction → Conjunction
  | .none | .and => .and
  | .or => .or
  | .not => .not

mutual

/-- What the text of a query shows of it. -/
def Query.shown : Query → Query
  | .comparison field operator literal => .comparison field operator literal.shown
  | .inList field negated literals => .inList field negated (literals.map Literal.shown)
  | .group clauses => .group (shownClauses clauses)

def shownClauses : List Clause → List Clause
  | [] => []
  | ⟨conjunction, query⟩ :: clauses =>
    ⟨shownOpener conjunction, query.shown⟩ :: shownJoined clauses

def shownJoined : List Clause → List Clause
  | [] => []
  | ⟨conjunction, query⟩ :: clauses =>
    ⟨shownJoiner conjunction, query.shown⟩ :: shownJoined clauses

end

/-- The word that negates a clause cannot be a field. -/
def isFieldName (field : String) : Bool := isName field && field != "NOT"

mutual

/-- Fields are names and numbers are checked, in every part of the query. -/
def Query.WellFormed : Query → Prop
  | .comparison field _ literal => isFieldName field ∧ literal.Checked
  | .inList field _ literals => isFieldName field ∧ ∀ literal ∈ literals, literal.Checked
  | .group clauses => ClausesWellFormed clauses

def ClausesWellFormed : List Clause → Prop
  | [] => True
  | ⟨_, query⟩ :: clauses => query.WellFormed ∧ ClausesWellFormed clauses

end

@[elab_as_elim]
theorem Query.tree_induction {motive : Query → Prop}
    (comparison : ∀ field operator literal, motive (.comparison field operator literal))
    (inList : ∀ field negated literals, motive (.inList field negated literals))
    (group : ∀ clauses, (∀ clause ∈ clauses, motive clause.query) → motive (.group clauses))
    (query : Query) : motive query :=
  @Query.rec motive (fun clause => motive clause.query)
    (fun clauses => ∀ clause ∈ clauses, motive clause.query) comparison inList group
    (fun _ _ inner => inner) (fun _ mem => absurd mem List.not_mem_nil)
    (fun _ _ first others => List.forall_mem_cons.mpr ⟨first, others⟩) query

section Lists

theorem joinedChars_eq_flatMap (dialect : RelationalDialect) (clauses : List Clause) :
    joinedChars dialect clauses = clauses.flatMap fun clause =>
      (joiner clause.conjunction).toList ++ clause.query.chars dialect := by
  induction clauses with
  | nil => rfl
  | cons clause clauses ih =>
      obtain ⟨conjunction, query⟩ := clause
      simp [joinedChars, ih]

theorem shownJoined_eq_map (clauses : List Clause) :
    shownJoined clauses =
      clauses.map fun clause => ⟨shownJoiner clause.conjunction, clause.query.shown⟩ := by
  induction clauses with
  | nil => rfl
  | cons clause clauses ih =>
      obtain ⟨conjunction, query⟩ := clause
      simp [shownJoined, ih]

theorem clausesWellFormed_iff (clauses : List Clause) :
    ClausesWellFormed clauses ↔ ∀ clause ∈ clauses, clause.query.WellFormed := by
  induction clauses with
  | nil => simp [ClausesWellFormed]
  | cons clause clauses ih =>
      obtain ⟨conjunction, query⟩ := clause
      simp [ClausesWellFormed, ih]

theorem length_chars_le (dialect : RelationalDialect) {clause : Clause} {clauses : List Clause}
    (mem : clause ∈ clauses) :
    (clause.query.chars dialect).length ≤ (clausesChars dialect clauses).length := by
  cases clauses with
  | nil => cases mem
  | cons first others =>
      obtain ⟨conjunction, query⟩ := first
      rw [clausesChars, joinedChars_eq_flatMap, List.length_append, List.length_append]
      obtain rfl | mem := List.mem_cons.mp mem
      · dsimp only
        omega
      · have part := Text.length_le_length_flatMap_of_mem mem fun clause =>
          (joiner clause.conjunction).toList ++ clause.query.chars dialect
        rw [List.length_append] at part
        omega

end Lists

theorem afterLiteral_of_closes {rest : List Char} (ends : Closes rest) : AfterLiteral rest := by
  obtain rfl | ⟨more, rfl⟩ := ends
  · exact .nothing
  · exact .parenthesis more

theorem joiner_ne_nil (conjunction : Conjunction) : (joiner conjunction).toList ≠ [] := by
  cases conjunction <;> decide

theorem afterLiteral_joiner (conjunction : Conjunction) (rest : List Char) :
    AfterLiteral ((joiner conjunction).toList ++ rest) := by
  cases conjunction with
  | none | and => exact .conjunction rest
  | or => exact .disjunction rest
  | not => exact .conjunction ("NOT ".toList ++ rest)

/-- A name with a blank behind it begins with the negating word only if it is that word. -/
theorem isPrefixOf?_negation_name {field : String} (named : isFieldName field) (rest : List Char) :
    "NOT ".toList.isPrefixOf? (field.toList ++ ' ' :: rest) = none := by
  simp only [isFieldName, Bool.and_eq_true, bne_iff_ne] at named
  obtain ⟨name, notWord⟩ := named
  rw [Option.eq_none_iff_forall_ne_some]
  intro more begins
  have same : "NOT ".toList ++ more = field.toList ++ ' ' :: rest :=
    List.isPrefixOf?_eq_some_iff_append_eq.mp begins
  -- Before the first blank stands a name on either side, and it is the same one.
  have notName : isName "NOT" := by decide
  have word : readName ("NOT ".toList ++ more) = some ("NOT", ' ' :: more) :=
    readName_blank notName more
  rw [same, readName_blank name] at word
  exact notWord (Prod.mk.inj (Option.some.inj word)).1

theorem isPrefixOf?_negation (dialect : RelationalDialect) {query : Query}
    (wellFormed : query.WellFormed) (rest : List Char) :
    "NOT ".toList.isPrefixOf? (query.chars dialect ++ rest) = none := by
  cases query with
  | comparison field operator literal =>
      have name := isPrefixOf?_negation_name wellFormed.1
        (operator.token.toList ++ ' ' :: literal.chars dialect ++ rest)
      simpa [Query.chars, comparisonChars] using name
  | inList field negated literals =>
      have name := isPrefixOf?_negation_name wellFormed.1
      rw [Query.chars, inListChars, List.append_assoc, List.append_assoc, List.append_assoc]
      cases negated <;> exact name _
  | group clauses => rfl

theorem readOpener_opener (conjunction : Conjunction) {cs : List Char}
    (plain : "NOT ".toList.isPrefixOf? cs = none) :
    readOpener ((opener conjunction).toList ++ cs) = (shownOpener conjunction, cs) := by
  cases conjunction with
  | not => rfl
  | none | and | or =>
      show readOpener cs = (.none, cs)
      simp only [readOpener, plain]

theorem readJoiner_joiner (conjunction : Conjunction) {cs : List Char}
    (plain : "NOT ".toList.isPrefixOf? cs = none) :
    readJoiner ((joiner conjunction).toList ++ cs) = some (shownJoiner conjunction, cs) := by
  -- What the longer mark has more than the shorter is the negating word.
  have mark : " AND NOT ".toList.isPrefixOf? (" AND ".toList ++ cs) = none := plain
  cases conjunction with
  | not => rfl
  | or => rfl
  | none | and =>
      simp only [joiner, readJoiner, mark, Text.isPrefixOf?_append]
      rfl

theorem readFirstClause_reads (dialect : RelationalDialect) {reader : Reader Query}
    {clause : Clause} (wellFormed : clause.query.WellFormed)
    (inner : Reads reader AfterLiteral (clause.query.chars dialect) clause.query.shown) :
    Reads (readFirstClause reader) AfterLiteral
      ((opener clause.conjunction).toList ++ clause.query.chars dialect)
      ⟨shownOpener clause.conjunction, clause.query.shown⟩ := by
  intro rest after
  have plain := isPrefixOf?_negation dialect wellFormed rest
  rw [List.append_assoc]
  simp [readFirstClause, readOpener_opener clause.conjunction plain, inner rest after]

theorem readNextClause_reads (dialect : RelationalDialect) {reader : Reader Query}
    {clause : Clause} (wellFormed : clause.query.WellFormed)
    (inner : Reads reader AfterLiteral (clause.query.chars dialect) clause.query.shown) :
    Reads (readNextClause reader) AfterLiteral
      ((joiner clause.conjunction).toList ++ clause.query.chars dialect)
      ⟨shownJoiner clause.conjunction, clause.query.shown⟩ := by
  intro rest after
  have plain := isPrefixOf?_negation dialect wellFormed rest
  rw [List.append_assoc]
  simp [readNextClause, readJoiner_joiner clause.conjunction plain, inner rest after]

theorem readQueryWithin_eq_none (dialect : RelationalDialect) {bound : Nat} {rest : List Char}
    (ends : Closes rest) : readQueryWithin dialect bound rest = none := by
  obtain rfl | ⟨more, rfl⟩ := ends <;> cases bound <;> rfl

theorem readClauses_reads (dialect : RelationalDialect) {bound : Nat} {clauses : List Clause}
    (wellFormed : ClausesWellFormed clauses)
    (inner : ∀ clause ∈ clauses, Reads (readQueryWithin dialect bound) AfterLiteral
      (clause.query.chars dialect) clause.query.shown)
    {rest : List Char} (ends : Closes rest) :
    readClauses (readQueryWithin dialect bound) (clausesChars dialect clauses ++ rest) =
      (shownClauses clauses, rest) := by
  rw [clausesWellFormed_iff] at wellFormed
  cases clauses with
  | nil =>
      have unmarked : (readOpener rest).2 = rest := by
        obtain rfl | ⟨more, rfl⟩ := ends <;> rfl
      have stops : readFirstClause (readQueryWithin dialect bound) rest = none := by
        simp [readFirstClause, unmarked, readQueryWithin_eq_none dialect ends]
      exact Text.readSeries_nil stops
  | cons first others =>
      obtain ⟨own, wellFormed⟩ := List.forall_mem_cons.mp wellFormed
      obtain ⟨head, inner⟩ := List.forall_mem_cons.mp inner
      have each : ∀ clause ∈ others, Reads (readNextClause (readQueryWithin dialect bound))
          AfterLiteral ((joiner clause.conjunction).toList ++ clause.query.chars dialect)
          ⟨shownJoiner clause.conjunction, clause.query.shown⟩ := fun clause mem =>
        readNextClause_reads dialect (wellFormed clause mem) (inner clause mem)
      have some : ∀ clause ∈ others,
          (joiner clause.conjunction).toList ++ clause.query.chars dialect ≠ [] :=
        fun clause _ => List.append_ne_nil_of_left_ne_nil (joiner_ne_nil clause.conjunction) _
      have follows : ∀ clause ∈ others, ∀ rest, AfterLiteral
          ((joiner clause.conjunction).toList ++ clause.query.chars dialect ++ rest) := by
        intro clause _ rest
        rw [List.append_assoc]
        exact afterLiteral_joiner clause.conjunction _
      have stops : readNextClause (readQueryWithin dialect bound) rest = none := by
        obtain rfl | ⟨more, rfl⟩ := ends <;> rfl
      have opens := readFirstClause_reads dialect own head
      obtain ⟨conjunction, query⟩ := first
      rw [readClauses, clausesChars, joinedChars_eq_flatMap, shownClauses, shownJoined_eq_map]
      exact Text.readSeries_cons opens each some follows (afterLiteral_of_closes ends) stops

/-- A text that begins with a name stands for a condition, whatever is around it. -/
theorem readQueryWithin_field (dialect : RelationalDialect) {field : String}
    (named : isName field) {cs : List Char} (begins : field.toList <+: cs) (bound : Nat) :
    readQueryWithin dialect bound cs = readCondition dialect cs := by
  obtain ⟨rest, rfl⟩ := begins
  obtain ⟨c, name, eq, char⟩ := Text.isName_head named
  have group : c ≠ '(' := by
    rintro rfl
    exact absurd char (by decide)
  rw [eq, List.cons_append]
  cases bound <;> simp [readQueryWithin, group]

theorem readQueryWithin_reads (dialect : RelationalDialect) {query : Query}
    (wellFormed : query.WellFormed) {bound : Nat}
    (enough : (query.chars dialect).length ≤ bound) :
    Reads (readQueryWithin dialect bound) AfterLiteral (query.chars dialect) query.shown := by
  induction query using Query.tree_induction generalizing bound with
  | comparison field operator literal =>
      intro rest after
      obtain ⟨named, checked⟩ := wellFormed
      have name : isName field := (Bool.and_eq_true_iff.mp named).1
      rw [readQueryWithin_field dialect name ⟨_, by simp [Query.chars, comparisonChars]; rfl⟩]
      exact readCondition_comparison dialect name operator checked rest after
  | inList field negated literals =>
      intro rest after
      obtain ⟨named, checked⟩ := wellFormed
      have name : isName field := (Bool.and_eq_true_iff.mp named).1
      rw [readQueryWithin_field dialect name ⟨_, by simp [Query.chars, inListChars]; rfl⟩]
      exact readCondition_inList dialect name negated checked rest after
  | group clauses ih =>
      intro rest _
      rw [Query.chars] at enough ⊢
      cases bound with
      | zero => simp at enough
      | succ bound =>
          -- A query inside is shorter than the group by the two parentheses at least.
          have each : ∀ clause ∈ clauses, Reads (readQueryWithin dialect bound) AfterLiteral
              (clause.query.chars dialect) clause.query.shown := by
            intro clause mem
            have shorter := length_chars_le dialect mem
            refine ih clause mem ((clausesWellFormed_iff clauses).mp wellFormed clause mem) ?_
            simp only [List.length_append, List.length_cons] at enough
            omega
          have inner := readClauses_reads dialect wellFormed each (.inr ⟨rest, rfl⟩)
          simp [readQueryWithin, inner, Query.shown]

theorem readClauses?_text (dialect : RelationalDialect) {clauses : List Clause}
    (wellFormed : ClausesWellFormed clauses) :
    readClauses? dialect (clausesText dialect clauses) = some (shownClauses clauses) := by
  have each : ∀ clause ∈ clauses,
      Reads (readQueryWithin dialect (clausesChars dialect clauses).length) AfterLiteral
        (clause.query.chars dialect) clause.query.shown := fun clause mem =>
    readQueryWithin_reads dialect ((clausesWellFormed_iff clauses).mp wellFormed clause mem)
      (length_chars_le dialect mem)
  have read := readClauses_reads dialect wellFormed each (.inl rfl)
  rw [List.append_nil] at read
  simp [readClauses?, clausesText, read, complete]

theorem Literal.chars_shown (dialect : RelationalDialect) (literal : Literal) :
    literal.shown.chars dialect = literal.chars dialect := by
  cases literal with
  | moment m => exact congrArg (momentLiteral dialect) m.chars_shown
  | string | number | boolean | date => rfl

theorem opener_shownOpener (conjunction : Conjunction) :
    opener (shownOpener conjunction) = opener conjunction := by
  cases conjunction <;> rfl

theorem joiner_shownJoiner (conjunction : Conjunction) :
    joiner (shownJoiner conjunction) = joiner conjunction := by
  cases conjunction <;> rfl

theorem clausesChars_shown_of_forall (dialect : RelationalDialect) {clauses : List Clause}
    (inner : ∀ clause ∈ clauses, clause.query.shown.chars dialect = clause.query.chars dialect) :
    clausesChars dialect (shownClauses clauses) = clausesChars dialect clauses := by
  cases clauses with
  | nil => rfl
  | cons first others =>
      obtain ⟨head, inner⟩ := List.forall_mem_cons.mp inner
      have later : joinedChars dialect (shownJoined others) = joinedChars dialect others := by
        rw [shownJoined_eq_map, joinedChars_eq_flatMap, joinedChars_eq_flatMap, List.flatMap_map]
        refine List.flatMap_congr fun clause mem => ?_
        rw [joiner_shownJoiner, inner clause mem]
      obtain ⟨conjunction, query⟩ := first
      rw [shownClauses, clausesChars, clausesChars, opener_shownOpener, head, later]

theorem Query.chars_shown (dialect : RelationalDialect) (query : Query) :
    query.shown.chars dialect = query.chars dialect := by
  induction query using Query.tree_induction with
  | comparison field operator literal =>
      simp only [Query.shown, Query.chars, comparisonChars, Literal.chars_shown]
  | inList field negated literals =>
      have same : (literals.map Literal.shown).map (Literal.chars dialect) =
          literals.map (Literal.chars dialect) := by
        rw [List.map_map]
        exact List.map_congr_left fun literal _ => literal.chars_shown dialect
      simp only [Query.shown, Query.chars, inListChars, same]
  | group clauses ih =>
      rw [Query.shown, Query.chars, Query.chars, clausesChars_shown_of_forall dialect ih]

theorem clausesText_shownClauses (dialect : RelationalDialect) (clauses : List Clause) :
    clausesText dialect (shownClauses clauses) = clausesText dialect clauses :=
  congrArg String.ofList
    (clausesChars_shown_of_forall dialect fun clause _ => clause.query.chars_shown dialect)

/-- A string that looks like the end of its list and the start of another condition, a number with
blanks around it, an empty group, and a time on a day that ended in a leap second. -/
def hostileClauses (conjunction : Conjunction) (time : ClockTime) : List Clause :=
  [⟨conjunction, .inList "item.code" true [.string "') OR NOT x IN ('", .number " -1.5e3 "]⟩,
   ⟨.or, .group [⟨.not, .group []⟩, ⟨.none, .comparison "NOT.paid" .equal (.boolean true)⟩]⟩,
   ⟨.not, .comparison "at" .less (.moment ⟨⟨2016, 12, 31, by decide, by decide⟩, time⟩)⟩]

def lastSecond : ClockTime := (ClockTime.ofParts? 23 59 59 0).get rfl

def lastInstant : ClockTime := (ClockTime.ofParts? 23 59 59 999999999).get rfl

def leapSecond : ClockTime := (ClockTime.ofParts? 23 59 59 nanosPerSecond).get rfl

def clausesAt (time : ClockTime) : List Clause :=
  [⟨.none, .comparison "at" .equal (.moment ⟨⟨2016, 12, 31, by decide, by decide⟩, time⟩)⟩]

end Relational
end FieldQuery
