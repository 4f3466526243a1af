import FieldQuery.Proofs.Text.Readers
import FieldQuery.Search.Request

/-!
The text of a boolean query can be read back. A quoted text ends at the first quote that no
backslash protects, a bare bound at the first character that would have had it quoted, and a query
inside another at its closing parenthesis, so that every piece of the text tells where it ends. What
is read back is the query itself, but for the tokens of a phrase: they come back as one text, joined
by single spaces.
-/

namespace FieldQuery
namespace Search

open Text (Reader Reads Stops Closes expect complete readName readSeries isName isNameChar)

/-- The characters up to the closing quote. A backslash stands before a character that is meant as
it is. -/
def readEscaped : List Char → Option (List Char × List Char)
  | [] => none
  | '"' :: cs => some ([], cs)
  | '\\' :: c :: cs => (readEscaped cs).map fun r => (c :: r.1, r.2)
  | c :: cs => (readEscaped cs).map fun r => (c :: r.1, r.2)

/-- A bare star is an absent bound. -/
def readBound : List Char → Option (Option String × List Char)
  | '"' :: cs => (readEscaped cs).map fun r => (some (String.ofList r.1), r.2)
  | cs =>
    let bare := cs.takeWhile fun c => !isBoundSpecial c
    some (if bare = ['*'] then none else some (String.ofList bare),
      cs.dropWhile fun c => !isBoundSpecial c)

/-- The bounds of a range, after the bracket that opens it. -/
def readRange (field : String) (inclusive : Bool) (cs : List Char) :
    Option (Query × List Char) := do
  let (lower, cs) ← readBound cs
  let cs ← " TO ".toList.isPrefixOf? cs
  let (upper, cs) ← readBound cs
  let cs ← expect (if inclusive then ']' else '\x7d') cs
  return (.range ⟨field, lower, upper, inclusive⟩, cs)

/-- A phrase or a range, told apart by what stands after the colon. -/
def readFieldQuery (cs : List Char) : Option (Query × List Char) := do
  let (field, cs) ← readName cs
  let cs ← expect ':' cs
  match cs with
  | '"' :: cs => (readEscaped cs).map fun r => (.phrase field [String.ofList r.1], r.2)
  | '[' :: cs => readRange field true cs
  | '\x7b' :: cs => readRange field false cs
  | _ => none

def readLeaf : List Char → Option (Query × List Char)
  | '*' :: ':' :: '*' :: cs => some (.matchAll, cs)
  | cs => readFieldQuery cs

def readMark : List Char → Occurrence × List Char
  | '+' :: cs => (.required, cs)
  | '-' :: cs => (.prohibited, cs)
  | cs => (.optional, cs)

def readClause (query : Reader Query) (cs : List Char) : Option (Clause × List Char) :=
  (query (readMark cs).2).map fun r => (⟨(readMark cs).1, r.1⟩, r.2)

def readNextClause (query : Reader Query) (cs : List Char) : Option (Clause × List Char) :=
  (expect ' ' cs).bind (readClause query)

def readClauses (query : Reader Query) : List Char → List Clause × List Char :=
  readSeries (readClause query) (readNextClause query)

/-- A query as it stands in a clause, with at most `bound` parentheses around any part of it. -/
def readQueryWithin : Nat → List Char → Option (Query × List Char)
  | bound + 1, '(' :: cs =>
    let inner := readClauses (readQueryWithin bound) cs
    (expect ')' inner.2).map fun cs => (.boolean inner.1, cs)
  | _, cs => readLeaf cs

/-- The clauses of a boolean query from its text. -/
def readBoolean? (text : String) : Option (List Clause) :=
  complete (readClauses (readQueryWithin text.toList.length) text.toList)

mutual

/-- The query with the tokens of each phrase put together in one text. -/
def Query.joined : Query → Query
  | .matchAll => .matchAll
  | .phrase field terms => .phrase field [" ".intercalate terms]
  | .range range => .range range
  | .boolean clauses => .boolean (joinedClauses clauses)

def joinedClauses : List Clause → List Clause
  | [] => []
  | ⟨occurrence, query⟩ :: clauses => ⟨occurrence, query.joined⟩ :: joinedClauses clauses

end

mutual

/-- Every field that the query speaks of is a name. -/
def Query.fieldsNamed : Query → Bool
  | .matchAll => true
  | .phrase field _ => isName field
  | .range range => isName range.field
  | .boolean clauses => clausesNamed clauses

def clausesNamed : List Clause → Bool
  | [] => true
  | ⟨_, query⟩ :: clauses => query.fieldsNamed && clausesNamed clauses

end

@[elab_as_elim]
theorem Query.tree_induction {motive : Query → Prop} (matchAll : motive .matchAll)
    (phrase : ∀ field terms, motive (.phrase field terms))
    (range : ∀ range, motive (.range range))
    (boolean : ∀ clauses, (∀ clause ∈ clauses, motive clause.query) → motive (.boolean clauses))
    (query : Query) : motive query :=
  @Query.rec motive (fun clause => motive clause.query)
    (fun clauses => ∀ clause ∈ clauses, motive clause.query) matchAll phrase range boolean
    (fun _ _ inner => inner) (fun _ mem => absurd mem List.not_mem_nil)
    (fun _ _ first others => List.forall_mem_cons.mpr ⟨first, others⟩) query

/-- A query as it stands in a clause. -/
def innerChars (query : Query) : List Char :=
  if query.isBoolean then '(' :: query.chars ++ [')'] else query.chars

theorem clauseChars_eq_map (clauses : List Clause) :
    clauseChars clauses =
      clauses.map fun clause => clause.occurrence.mark ++ innerChars clause.query := by
  induction clauses with
  | nil => rfl
  | cons clause clauses ih =>
      obtain ⟨occurrence, query⟩ := clause
      simp [clauseChars, ih, innerChars]

theorem joinedClauses_eq_map (clauses : List Clause) :
    joinedClauses clauses =
      clauses.map fun clause => ⟨clause.occurrence, clause.query.joined⟩ := by
  induction clauses with
  | nil => rfl
  | cons clause clauses ih =>
      obtain ⟨occurrence, query⟩ := clause
      simp [joinedClauses, ih]

theorem clausesNamed_iff (clauses : List Clause) :
    clausesNamed clauses ↔ ∀ clause ∈ clauses, clause.query.fieldsNamed := by
  induction clauses with
  | nil => simp [clausesNamed]
  | cons clause clauses ih =>
      obtain ⟨occurrence, query⟩ := clause
      simp [clausesNamed, ih]

/-- Every text ends where its reader stops; nothing is asked of what follows. -/
abbrev Anything (_ : List Char) : Prop := True

theorem readEscaped_reads (cs : List Char) :
    Reads readEscaped Anything (escapePhrase cs ++ ['"']) cs := by
  intro rest _
  induction cs with
  | nil => rfl
  | cons c cs ih =>
      have tail : readEscaped (escapePhrase cs ++ '"' :: rest) = some (cs, rest) := by
        simpa using ih
      by_cases special : c = '\\' ∨ c = '"'
      · have text : escapePhrase (c :: cs) = '\\' :: c :: escapePhrase cs := by
          simp [escapePhrase, special]
        simp [text, readEscaped, tail]
      · have text : escapePhrase (c :: cs) = c :: escapePhrase cs := by
          simp [escapePhrase, special]
        rw [not_or] at special
        simp [text, readEscaped, tail, special]

theorem readBound_bare {bare rest : List Char} (nonempty : bare ≠ [])
    (plain : ∀ c ∈ bare, (!isBoundSpecial c) = true)
    (stops : Stops (fun c => !isBoundSpecial c) rest) :
    readBound (bare ++ rest) =
      some (if bare = ['*'] then none else some (String.ofList bare), rest) := by
  have take := Text.takeWhile_of_stops plain stops
  have drop := Text.dropWhile_of_stops plain stops
  cases bare with
  | nil => exact absurd rfl nonempty
  | cons c cs =>
      -- A bare bound does not begin with a quote, since a quote would have had it quoted.
      have bare : c ≠ '"' := by
        rintro rfl
        exact absurd (plain '"' (List.mem_cons_self ..)) (by decide)
      rw [List.cons_append] at take drop ⊢
      simp [readBound, bare, take, drop]

theorem readBound_reads (bound : Option String) :
    Reads readBound (Stops fun c => !isBoundSpecial c) (boundChars bound) bound := by
  intro rest stops
  cases bound with
  | none =>
      have plain : ∀ c ∈ ['*'], !isBoundSpecial c := List.forall_mem_singleton.mpr (by decide)
      exact readBound_bare (List.cons_ne_nil '*' []) plain stops
  | some bound =>
      cases quoted : needsQuotes bound.toList with
      | true =>
          have read := readEscaped_reads bound.toList rest trivial
          simp only [List.append_assoc, List.singleton_append] at read
          simp [boundChars, quoted, readBound, read]
      | false =>
          have text : boundChars (some bound) = bound.toList := by simp [boundChars, quoted]
          simp only [needsQuotes, Bool.or_eq_false_iff, List.any_eq_false, beq_eq_false_iff_ne,
            List.isEmpty_eq_false_iff] at quoted
          obtain ⟨⟨nonempty, notStar⟩, plain⟩ := quoted
          rw [text, readBound_bare nonempty (by simpa using plain) stops]
          simp [notStar]

theorem readRange_reads (range : Range) :
    Reads (readRange range.field range.inclusive) Anything
      (boundChars range.lower ++ " TO ".toList ++ boundChars range.upper
        ++ [if range.inclusive then ']' else '\x7d'])
      (.range range) := by
  intro rest _
  obtain ⟨field, lower, upper, inclusive⟩ := range
  have first := readBound_reads lower
    (" TO ".toList ++ (boundChars upper ++ (if inclusive then ']' else '\x7d') :: rest))
    (Text.stops_cons (by decide) _)
  have second := readBound_reads upper ((if inclusive then ']' else '\x7d') :: rest)
    (Text.stops_cons (by cases inclusive <;> decide) rest)
  simp only [readRange, List.append_assoc, List.singleton_append, first, second,
    Option.bind_eq_bind, Option.bind_some, Text.isPrefixOf?_append, Text.expect_cons]
  rfl

theorem readName_colon {field : String} (named : isName field) (rest : List Char) :
    readName (field.toList ++ ':' :: rest) = some (field, ':' :: rest) :=
  Text.readName_reads named _ (Text.stops_cons (by decide) rest)

theorem escapePhrase_intercalate (terms : List (List Char)) :
    escapePhrase ([' '].intercalate terms) = [' '].intercalate (terms.map escapePhrase) :=
  Text.flatMap_intercalate _ _ terms

/-- A phrase is written like the phrase of the one text that its tokens make. -/
theorem phraseChars_joined (field : String) (terms : List String) :
    phraseChars field [" ".intercalate terms] = phraseChars field terms := by
  have space : " ".toList = [' '] := rfl
  simp [phraseChars, String.toList_intercalate, space, escapePhrase_intercalate,
    Function.comp_def]

theorem readFieldQuery_phrase {field : String} (named : isName field) (phrase : String) :
    Reads readFieldQuery Anything (phraseChars field [phrase]) (.phrase field [phrase]) := by
  intro rest _
  have body := readEscaped_reads phrase.toList rest trivial
  simp only [List.append_assoc, List.cons_append, List.nil_append] at body
  simp only [phraseChars, List.map_cons, List.map_nil, List.intercalate_singleton,
    List.append_assoc, List.cons_append, List.nil_append, readFieldQuery,
    readName_colon named, Option.bind_eq_bind, Option.bind_some,
    Text.expect_cons, body, Option.map_some, String.ofList_toList]

theorem readFieldQuery_range {range : Range} (named : isName range.field) :
    Reads readFieldQuery Anything range.chars (.range range) := by
  intro rest _
  have body := readRange_reads range rest trivial
  simp only [List.append_assoc, List.cons_append, List.nil_append] at body
  simp only [Range.chars, List.append_assoc, List.cons_append, List.nil_append, readFieldQuery,
    readName_colon named, Option.bind_eq_bind, Option.bind_some,
    Text.expect_cons]
  cases inclusive : range.inclusive <;>
    · rw [inclusive] at body
      exact body

theorem innerChars_head {query : Query} (named : query.fieldsNamed) :
    ∃ c cs, innerChars query = c :: cs ∧ c ≠ '+' ∧ c ≠ '-' := by
  have name : ∀ {field : String}, isName field →
      ∃ c cs, field.toList = c :: cs ∧ c ≠ '+' ∧ c ≠ '-' := by
    intro field named
    obtain ⟨c, cs, eq, char⟩ := Text.isName_head named
    refine ⟨c, cs, eq, ?_, ?_⟩ <;>
      · rintro rfl
        exact absurd char (by decide)
  cases query with
  | matchAll => exact ⟨'*', [':', '*'], rfl, by decide, by decide⟩
  | phrase field terms =>
      obtain ⟨c, cs, eq, plus, minus⟩ := name named
      exact ⟨c, _, by simp [innerChars, Query.isBoolean, Query.chars, phraseChars, eq]; rfl, plus,
        minus⟩
  | range range =>
      obtain ⟨c, cs, eq, plus, minus⟩ := name named
      exact ⟨c, _, by simp [innerChars, Query.isBoolean, Query.chars, Range.chars, eq]; rfl, plus,
        minus⟩
  | boolean clauses =>
      exact ⟨'(', _, by simp [innerChars, Query.isBoolean]; rfl, by decide, by decide⟩

theorem readMark_mark (occurrence : Occurrence) {c : Char} (cs : List Char) (plus : c ≠ '+')
    (minus : c ≠ '-') : readMark (occurrence.mark ++ c :: cs) = (occurrence, c :: cs) := by
  cases occurrence with
  | required | prohibited => rfl
  | optional => simp [Occurrence.mark, readMark, plus, minus]

theorem readClause_reads {reader : Reader Query} {clause : Clause}
    (named : clause.query.fieldsNamed)
    (inner : Reads reader Anything (innerChars clause.query) clause.query.joined) :
    Reads (readClause reader) Anything (clause.occurrence.mark ++ innerChars clause.query)
      ⟨clause.occurrence, clause.query.joined⟩ := by
  intro rest _
  have read := inner rest trivial
  obtain ⟨c, cs, eq, plus, minus⟩ := innerChars_head named
  rw [eq, List.cons_append] at read
  rw [eq, List.append_assoc, List.cons_append]
  simp [readClause, readMark_mark clause.occurrence _ plus minus, read]

theorem readQueryWithin_eq_none {bound : Nat} {rest : List Char} (ends : Closes rest) :
    readQueryWithin bound rest = none := by
  obtain rfl | ⟨more, rfl⟩ := ends <;> cases bound <;> rfl

theorem readClauses_reads {bound : Nat} {clauses : List Clause} (named : clausesNamed clauses)
    (inner : ∀ clause ∈ clauses, Reads (readQueryWithin bound) Anything
      (innerChars clause.query) clause.query.joined)
    {rest : List Char} (ends : Closes rest) :
    readClauses (readQueryWithin bound) ((Query.boolean clauses).chars ++ rest) =
      (joinedClauses clauses, rest) := by
  rw [clausesNamed_iff] at named
  have each : ∀ clause ∈ clauses, Reads (readClause (readQueryWithin bound)) Anything
      (clause.occurrence.mark ++ innerChars clause.query)
      ⟨clause.occurrence, clause.query.joined⟩ :=
    fun clause mem => readClause_reads (named clause mem) (inner clause mem)
  rw [Query.chars, clauseChars_eq_map, joinedClauses_eq_map]
  cases clauses with
  | nil =>
      have unmarked : (readMark rest).2 = rest := by
        obtain rfl | ⟨more, rfl⟩ := ends <;> rfl
      have stops : readClause (readQueryWithin bound) rest = none := by
        simp [readClause, unmarked, readQueryWithin_eq_none ends]
      exact Text.readSeries_nil stops
  | cons clause clauses =>
      have stops : readNextClause (readQueryWithin bound) rest = none := by
        obtain rfl | ⟨more, rfl⟩ := ends <;> rfl
      have others : ∀ other ∈ clauses, Reads (readNextClause (readQueryWithin bound)) Anything
          ([' '] ++ (other.occurrence.mark ++ innerChars other.query))
          ⟨other.occurrence, other.query.joined⟩ := by
        intro other mem rest _
        have read := each other (by simp [mem]) rest trivial
        simpa [readNextClause] using read
      rw [List.map_cons, Text.intercalate_cons_eq_flatMap, List.flatMap_map, readClauses]
      exact Text.readSeries_cons (each clause (by simp)) others (by simp) (by simp) trivial stops

theorem length_innerChars_le {clause : Clause} {clauses : List Clause} (mem : clause ∈ clauses) :
    (innerChars clause.query).length ≤ (Query.boolean clauses).chars.length := by
  have part : clause.occurrence.mark ++ innerChars clause.query ∈ clauseChars clauses := by
    rw [clauseChars_eq_map]
    exact List.mem_map_of_mem mem
  have inside := Text.length_le_length_intercalate [' '] part
  rw [List.length_append] at inside
  rw [Query.chars]
  omega

/-- A text that begins with a name stands for a query on a field, whatever is around it. -/
theorem readQueryWithin_field {field : String} (named : isName field) {cs : List Char}
    (begins : field.toList <+: cs) (bound : Nat) :
    readQueryWithin bound cs = readFieldQuery cs := by
  obtain ⟨rest, rfl⟩ := begins
  obtain ⟨c, name, eq, char⟩ := Text.isName_head named
  have group : c ≠ '(' := by
    rintro rfl
    exact absurd char (by decide)
  have star : c ≠ '*' := by
    rintro rfl
    exact absurd char (by decide)
  rw [eq, List.cons_append]
  cases bound <;> simp [readQueryWithin, readLeaf, group, star]

theorem readQueryWithin_reads {query : Query} (named : query.fieldsNamed) {bound : Nat}
    (enough : (innerChars query).length ≤ bound) :
    Reads (readQueryWithin bound) Anything (innerChars query) query.joined := by
  induction query using Query.tree_induction generalizing bound with
  | matchAll =>
      intro rest _
      cases bound <;> rfl
  | phrase field terms =>
      intro rest _
      have text : innerChars (.phrase field terms) = phraseChars field [" ".intercalate terms] :=
        (phraseChars_joined field terms).symm
      rw [text, readQueryWithin_field named ⟨_, by simp [phraseChars]; rfl⟩]
      exact readFieldQuery_phrase named _ rest trivial
  | range range =>
      intro rest _
      have text : innerChars (.range range) = range.chars := rfl
      rw [text, readQueryWithin_field named ⟨_, by simp [Range.chars]; rfl⟩]
      exact readFieldQuery_range named rest trivial
  | boolean clauses ih =>
      intro rest _
      have text : innerChars (.boolean clauses) =
          '(' :: (Query.boolean clauses).chars ++ [')'] := rfl
      rw [text] at enough ⊢
      cases bound with
      | zero => simp at enough
      | succ bound =>
          have each : ∀ clause ∈ clauses, Reads (readQueryWithin bound) Anything
              (innerChars clause.query) clause.query.joined := by
            intro clause mem
            have shorter := length_innerChars_le mem
            refine ih clause mem ((clausesNamed_iff clauses).mp named clause mem) ?_
            simp only [List.length_append, List.length_cons] at enough
            omega
          have inner := readClauses_reads named each (.inr ⟨rest, rfl⟩)
          simp [readQueryWithin, inner, Query.joined]

theorem readBoolean?_text {clauses : List Clause} (named : clausesNamed clauses) :
    readBoolean? (Query.boolean clauses).text = some (joinedClauses clauses) := by
  have each : ∀ clause ∈ clauses, Reads (readQueryWithin (Query.boolean clauses).chars.length)
      Anything (innerChars clause.query) clause.query.joined := fun clause mem =>
    readQueryWithin_reads ((clausesNamed_iff clauses).mp named clause mem)
      (length_innerChars_le mem)
  have read := readClauses_reads named each (.inl rfl)
  rw [List.append_nil] at read
  simp [readBoolean?, Query.text, read, complete]

theorem Query.chars_joined (query : Query) : query.joined.chars = query.chars := by
  induction query using Query.tree_induction with
  | matchAll => rfl
  | phrase field terms => exact phraseChars_joined field terms
  | range range => rfl
  | boolean clauses ih =>
      have kind : ∀ query : Query, query.joined.isBoolean = query.isBoolean := by
        intro query
        cases query <;> rfl
      have inner : ∀ clause ∈ clauses,
          clause.occurrence.mark ++ innerChars clause.query.joined =
            clause.occurrence.mark ++ innerChars clause.query := by
        intro clause mem
        simp [innerChars, kind, ih clause mem]
      rw [Query.joined, Query.chars, Query.chars, clauseChars_eq_map, clauseChars_eq_map,
        joinedClauses_eq_map, List.map_map]
      exact congrArg _ (List.map_congr_left inner)

theorem boolean_text_joinedClauses (clauses : List Clause) :
    (Query.boolean (joinedClauses clauses)).text = (Query.boolean clauses).text := by
  have chars := Query.chars_joined (.boolean clauses)
  rw [Query.joined] at chars
  rw [Query.text, Query.text, chars]

/-- A boolean query is read back from its text, and two of them have the same text exactly when
they differ in nothing but how the texts of their phrases are cut into tokens. -/
theorem boolean_text_decodable {clauses : List Clause} (named : clausesNamed clauses) :
    readBoolean? (Query.boolean clauses).text = some (joinedClauses clauses) ∧
    ∀ others, clausesNamed others →
      ((Query.boolean clauses).text = (Query.boolean others).text ↔
        joinedClauses clauses = joinedClauses others) := by
  have read := readBoolean?_text named
  refine ⟨read, fun others otherNamed => ?_⟩
  exact Text.text_eq_iff (fun clauses => (Query.boolean clauses).text) joinedClauses
    boolean_text_joinedClauses read (readBoolean?_text otherNamed)

/-- A phrase with quotes and a backslash, an upper bound that looks like the end of its range, and
an empty query inside another. -/
def awkwardClauses (lower : Option String) : List Clause :=
  [⟨.prohibited, .phrase "name" ["say \"hi\"", "a\\"]⟩,
   ⟨.required, .boolean
     [⟨.optional, .range ⟨"item.code", lower, some "9] TO \"*", true⟩⟩,
      ⟨.required, .boolean []⟩]⟩]

/-- The bound that is a star, the empty bound and no bound at all are told apart. -/
theorem boolean_text_decodable_awkward :
    clausesNamed (awkwardClauses none) ∧
      readBoolean? (Query.boolean (awkwardClauses none)).text =
        some (joinedClauses (awkwardClauses none)) ∧
      (Query.boolean (awkwardClauses none)).text ≠
        (Query.boolean (awkwardClauses (some "*"))).text ∧
      (Query.boolean (awkwardClauses none)).text ≠
        (Query.boolean (awkwardClauses (some ""))).text := by
  have named : ∀ lower, clausesNamed (awkwardClauses lower) := by
    intro lower
    have name : isName "name" := by decide
    have code : isName "item.code" := by decide
    simp [awkwardClauses, clausesNamed, Query.fieldsNamed, name, code]
  obtain ⟨read, same⟩ := boolean_text_decodable (named none)
  refine ⟨named none, read, ?_, ?_⟩ <;>
    · rw [ne_eq, same _ (named _)]
      simp [awkwardClauses, joinedClauses, Query.joined]

end Search
end FieldQuery
