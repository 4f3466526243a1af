import FieldQuery.Proofs.Text.Readers
import FieldQuery.Relational.Statement
import FieldQuery.Search.Request

/-!
Sort orders in writing and read again. A search and a statement write the same list in two forms,
which differ in their keywords and in the space that a statement leaves after a comma. Either text
gives the list back: it is cut at the commas, and the direction of a clause stands after its last
space, so that a field may hold spaces and may even end like a clause of its own. Only a comma in a
field would be taken for the end of the clause.
-/

namespace FieldQuery

namespace Text

/-- What stands before and after the last occurrence of a character. -/
def cutAtLast? (c : Char) : List Char → Option (List Char × List Char)
  | [] => none
  | d :: rest =>
    match cutAtLast? c rest with
    | some (before, after) => some (d :: before, after)
    | none => if d = c then some ([], rest) else none

theorem cutAtLast?_eq_none {c : Char} {cs : List Char} (absent : c ∉ cs) :
    cutAtLast? c cs = none := by
  induction cs with
  | nil => rfl
  | cons d cs ih =>
      have other : d ≠ c := (List.ne_of_not_mem_cons absent).symm
      rw [cutAtLast?, ih (List.not_mem_of_not_mem_cons absent)]
      exact if_neg other

theorem cutAtLast?_append_cons {c : Char} (before : List Char) {after : List Char}
    (absent : c ∉ after) : cutAtLast? c (before ++ c :: after) = some (before, after) := by
  induction before with
  | nil => simp [cutAtLast?, cutAtLast?_eq_none absent]
  | cons d before ih => simp [cutAtLast?, ih]

theorem mapM_map_of_inverse {α β : Type} {write : α → β} {read? : β → Option α}
    (inverse : ∀ a, read? (write a) = some a) (as : List α) :
    (as.map write).mapM read? = some as := by
  have found : read? ∘ write = fun a => pure a := funext inverse
  rw [List.mapM_map, found, List.mapM_pure, List.map_id']
  rfl

end Text

/-- A way to write sort orders: what stands between a comma and the next clause, and the words for
the directions. -/
structure SortForm where
  gap : List Char
  keyword : SortDirection → String
  gap_plain : ',' ∉ gap
  keyword_plain : ∀ direction, ',' ∉ (keyword direction).toList ∧ ' ' ∉ (keyword direction).toList
  keyword_injective : Function.Injective keyword

def Search.sortForm : SortForm where
  gap := []
  keyword := Search.sortKeyword
  gap_plain := by decide
  keyword_plain := by rintro ⟨⟩ <;> decide
  keyword_injective := by rintro ⟨⟩ ⟨⟩ <;> decide

def Relational.sortForm : SortForm where
  gap := [' ']
  keyword := Relational.sortKeyword
  gap_plain := by decide
  keyword_plain := by rintro ⟨⟩ <;> decide
  keyword_injective := by rintro ⟨⟩ ⟨⟩ <;> decide

/-- No field has a comma in its name. -/
def Commaless (sort : List SortClause) : Prop := ∀ clause ∈ sort, ',' ∉ clause.field.toList

instance (sort : List SortClause) : Decidable (Commaless sort) :=
  inferInstanceAs (Decidable (∀ clause ∈ sort, ',' ∉ clause.field.toList))

namespace SortForm

variable (form : SortForm)

section Writing

def clauseChars (clause : SortClause) : List Char :=
  clause.field.toList ++ ' ' :: (form.keyword clause.direction).toList

def chars (sort : List SortClause) : List Char :=
  (',' :: form.gap).intercalate (sort.map form.clauseChars)

/-- The written order; absent when no order is asked for. -/
def text? (sort : List SortClause) : Option String :=
  if sort.isEmpty then none else some (String.ofList (form.chars sort))

end Writing

section Reading

def readDirection? (keyword : List Char) : Option SortDirection :=
  [.ascending, .descending].find? fun direction => (form.keyword direction).toList == keyword

def readClause? (part : List Char) : Option SortClause := do
  let (field, keyword) ← Text.cutAtLast? ' ' part
  let direction ← form.readDirection? keyword
  return ⟨String.ofList field, direction⟩

/-- The gap stands before every part but the first. -/
def read? (text : String) : Option (List SortClause) :=
  match text.toList.splitOn ',' with
  | [] => none
  | first :: others => do
    let others ← others.mapM form.gap.isPrefixOf?
    (first :: others).mapM form.readClause?

/-- An absent text stands for no order. -/
def readText? : Option String → Option (List SortClause)
  | none => some []
  | some text => form.read? text

end Reading

theorem readDirection?_keyword (direction : SortDirection) :
    form.readDirection? (form.keyword direction).toList = some direction := by
  have told : ∀ other, ((form.keyword other).toList == (form.keyword direction).toList) =
      decide (other = direction) := by
    intro other
    rw [Bool.eq_iff_iff, beq_iff_eq, decide_eq_true_iff, String.toList_inj,
      form.keyword_injective.eq_iff]
  cases direction with
  | ascending => simp [readDirection?, told]
  | descending => simp [readDirection?, told]

theorem readClause?_clauseChars (clause : SortClause) :
    form.readClause? (form.clauseChars clause) = some clause := by
  have cut := Text.cutAtLast?_append_cons clause.field.toList
    (form.keyword_plain clause.direction).2
  simp [readClause?, clauseChars, cut, readDirection?_keyword]

theorem comma_not_mem_clauseChars {clause : SortClause} (commaless : ',' ∉ clause.field.toList) :
    ',' ∉ form.clauseChars clause := by
  simp [clauseChars, commaless, (form.keyword_plain clause.direction).1]

/-- The gap can be counted to the clause after it, so that commas alone divide the text. -/
theorem chars_cons (clause : SortClause) (sort : List SortClause) :
    form.chars (clause :: sort) =
      [','].intercalate
        (form.clauseChars clause :: sort.map fun other => form.gap ++ form.clauseChars other) := by
  simp [chars, Text.intercalate_cons_eq_flatMap, List.flatMap_map]

theorem splitOn_chars {clause : SortClause} {sort : List SortClause}
    (commaless : Commaless (clause :: sort)) :
    (form.chars (clause :: sort)).splitOn ',' =
      form.clauseChars clause :: sort.map fun other => form.gap ++ form.clauseChars other := by
  rw [chars_cons]
  refine List.splitOn_intercalate ',' ?_ (List.cons_ne_nil _ _)
  intro part mem
  obtain rfl | mem := List.mem_cons.mp mem
  · exact form.comma_not_mem_clauseChars (commaless clause (List.mem_cons_self ..))
  · obtain ⟨other, among, rfl⟩ := List.mem_map.mp mem
    have own := form.comma_not_mem_clauseChars (commaless other (List.mem_cons_of_mem _ among))
    simp [form.gap_plain, own]

theorem read?_chars {sort : List SortClause} (commaless : Commaless sort) (asked : sort ≠ []) :
    form.read? (String.ofList (form.chars sort)) = some sort := by
  cases sort with
  | nil => exact absurd rfl asked
  | cons clause sort =>
      have parts : (sort.map fun other => form.gap ++ form.clauseChars other) =
          (sort.map form.clauseChars).map (form.gap ++ ·) := by
        simp
      have dropped := Text.mapM_map_of_inverse (Text.isPrefixOf?_append form.gap)
        (sort.map form.clauseChars)
      rw [read?, String.toList_ofList, splitOn_chars form commaless, parts]
      simp only [dropped]
      exact Text.mapM_map_of_inverse form.readClause?_clauseChars (clause :: sort)

theorem text?_eq_none_iff {sort : List SortClause} : form.text? sort = none ↔ sort = [] := by
  cases sort <;> simp [text?]

theorem exists_text {sort : List SortClause} (commaless : Commaless sort) (asked : sort ≠ []) :
    ∃ text, form.text? sort = some text ∧ form.read? text = some sort :=
  ⟨_, if_neg (by simpa using asked), form.read?_chars commaless asked⟩

theorem readText?_text? {sort : List SortClause} (commaless : Commaless sort) :
    form.readText? (form.text? sort) = some sort := by
  by_cases asked : sort = []
  · subst asked
    rfl
  · obtain ⟨text, written, read⟩ := form.exists_text commaless asked
    rw [written]
    exact read

theorem text?_eq_iff {sort others : List SortClause} (commaless : Commaless sort)
    (othersCommaless : Commaless others) : form.text? sort = form.text? others ↔ sort = others := by
  constructor
  · intro same
    have read := form.readText?_text? commaless
    rw [same, form.readText?_text? othersCommaless] at read
    exact (Option.some.inj read).symm
  · rintro rfl
    rfl

end SortForm

theorem Search.Request.sortParameter?_eq (request : Search.Request) :
    request.sortParameter? = Search.sortForm.text? request.sort := rfl

theorem Relational.Statement.order?_eq (statement : Relational.Statement) :
    statement.order? = Relational.sortForm.text? statement.sort := rfl

/-- A search and a statement that ask for the same order. Each leaves its text out exactly when the
order is empty, and otherwise writes one that reads as this order again. So either text tells any
two orders apart. -/
theorem sort_texts_decodable {sort : List SortClause} (commaless : Commaless sort)
    (request : Search.Request) (statement : Relational.Statement) (requested : request.sort = sort)
    (stated : statement.sort = sort) :
    (request.sortParameter? = none ↔ sort = []) ∧ (statement.order? = none ↔ sort = []) ∧
    (sort ≠ [] →
      (∃ text, request.sortParameter? = some text ∧ Search.sortForm.read? text = some sort) ∧
      ∃ text, statement.order? = some text ∧ Relational.sortForm.read? text = some sort) ∧
    ∀ (other : Search.Request) (another : Relational.Statement), another.sort = other.sort →
      Commaless other.sort →
      (request.sortParameter? = other.sortParameter? ↔ sort = other.sort) ∧
      (statement.order? = another.order? ↔ sort = other.sort) := by
  simp only [Search.Request.sortParameter?_eq, Relational.Statement.order?_eq, requested, stated]
  refine ⟨Search.sortForm.text?_eq_none_iff, Relational.sortForm.text?_eq_none_iff, ?_, ?_⟩
  · intro asked
    exact ⟨Search.sortForm.exists_text commaless asked,
      Relational.sortForm.exists_text commaless asked⟩
  · intro other another same otherCommaless
    rw [same]
    exact ⟨Search.sortForm.text?_eq_iff commaless otherCommaless,
      Relational.sortForm.text?_eq_iff commaless otherCommaless⟩

/-- One field twice, whose name looks like a clause of its own, and between them one that begins
with a space. -/
def awkwardSort : List SortClause :=
  [⟨"price DESC", .descending⟩, ⟨" name", .ascending⟩, ⟨"price DESC", .descending⟩]

def bareRequest (sort : List SortClause) : Search.Request := ⟨.matchAll, sort, none, none⟩

def bareStatement (sort : List SortClause) : Relational.Statement :=
  ⟨.sql, none, [], sort, none, none⟩

/-- The second mention of the field is written and read like the first. -/
theorem sort_texts_decodable_awkward :
    Commaless awkwardSort ∧
    Search.sortForm.read? "price DESC desc, name asc,price DESC desc" = some awkwardSort ∧
    Relational.sortForm.read? "price DESC DESC,  name ASC, price DESC DESC" = some awkwardSort ∧
    (bareRequest awkwardSort).sortParameter? ≠
      (bareRequest awkwardSort.dedup).sortParameter? ∧
    (bareStatement awkwardSort).order? ≠ (bareStatement awkwardSort.dedup).order? := by
  have commaless : Commaless awkwardSort := by decide
  obtain ⟨-, -, texts, apart⟩ := sort_texts_decodable commaless
    (bareRequest awkwardSort) (bareStatement awkwardSort) rfl rfl
  obtain ⟨⟨text, written, read⟩, ⟨ordered, writtenOrder, readOrder⟩⟩ := texts (by decide)
  have shown : (bareRequest awkwardSort).sortParameter? =
      some "price DESC desc, name asc,price DESC desc" := by decide
  have shownOrder : (bareStatement awkwardSort).order? =
      some "price DESC DESC,  name ASC, price DESC DESC" := by decide
  cases written.symm.trans shown
  cases writtenOrder.symm.trans shownOrder
  obtain ⟨params, orders⟩ := apart (bareRequest awkwardSort.dedup)
    (bareStatement awkwardSort.dedup) rfl (by decide)
  refine ⟨commaless, read, readOrder, ?_, ?_⟩
  · rw [ne_eq, params]
    decide
  · rw [ne_eq, orders]
    decide

/-- A comma in a field is read as the end of a clause. -/
example : Search.sortChars [⟨"name asc,price", .descending⟩] =
    Search.sortChars [⟨"name", .ascending⟩, ⟨"price", .descending⟩] := by
  decide

end FieldQuery
