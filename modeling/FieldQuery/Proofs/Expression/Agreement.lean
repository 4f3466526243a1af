import FieldQuery.Proofs.Expression.Simulation
import FieldQuery.Proofs.Relational.Meaning
import FieldQuery.Proofs.Search.Meaning

/-!
An expression compiled for a search and for a database selects the same documents, as long as no
level mixes the ways in which its items are joined. Both compilations keep the same items of every
level, those of which a query is left, and give each the same conjunction; so they are followed side
by side, as clauses in both families at once, from the innermost groups outwards.
-/

namespace FieldQuery
namespace Expression

/-- A clause of a level, as it is added in either family. -/
structure Twin where
  conjunction : Conjunction
  operator : Operator
  search : Search.Query
  relational : Relational.Query

namespace Twin

def offer (twin : Twin) : Search.Offer := ⟨twin.conjunction, twin.search, twin.operator⟩

def clause (twin : Twin) : Relational.Clause := ⟨twin.conjunction, twin.relational⟩

def query (twin : Twin) : Family → FamilyQuery
  | .relational => .relational twin.relational
  | .search => .search twin.search

/-- The relational query has the sign of the operator in it, the search query has not. -/
def Agrees (document : Search.Document) (row : Relational.Row) (twin : Twin) : Prop :=
  row.satisfies twin.relational =
    (document.satisfies twin.search != (twin.operator == .notEqual))

theorem holds_clause {document : Search.Document} {row : Relational.Row} {twin : Twin}
    (agrees : twin.Agrees document row) : row.holds twin.clause = document.holds twin.offer := by
  simp only [Relational.Row.holds, clause, Search.Document.holds, offer, Search.negates]
  rw [agrees]
  generalize document.satisfies twin.search = found
  generalize (twin.operator == .notEqual) = unequal
  generalize (twin.conjunction == .not) = negated
  revert found unequal negated
  decide

end Twin

/-- The conjunction and the operator that an item is added with. -/
abbrev Joint := Conjunction × Operator

def Twin.joint (twin : Twin) : Joint := (twin.conjunction, twin.operator)

def Conjunctive (joints : List Joint) : Prop := ∀ joint ∈ joints, joint.1 ≠ .or

/-- Only OR joins the items, and none of them is negative. -/
def Disjunctive (joints : List Joint) : Prop :=
  (∀ joint ∈ joints.tail, joint.1 = .or) ∧ (∀ joint ∈ joints, joint.1 ≠ .and) ∧
    ∀ joint ∈ joints, Search.negates joint.2 joint.1 = false

theorem Conjunctive.sublist {kept all : List Joint} (conjunctive : Conjunctive all)
    (sub : kept.Sublist all) : Conjunctive kept :=
  fun joint mem => conjunctive joint (sub.mem mem)

theorem Disjunctive.sublist {kept all : List Joint} (disjunctive : Disjunctive all)
    (sub : kept.Sublist all) : Disjunctive kept :=
  ⟨fun joint mem => disjunctive.1 joint (sub.tail.mem mem),
    fun joint mem => disjunctive.2.1 joint (sub.mem mem),
    fun joint mem => disjunctive.2.2 joint (sub.mem mem)⟩

section Level

variable {document : Search.Document} {row : Relational.Row} {twins : List Twin}

theorem map_holds_clause (agree : ∀ twin ∈ twins, twin.Agrees document row) :
    (twins.map Twin.clause).map row.holds = (twins.map Twin.offer).map document.holds := by
  rw [List.map_map, List.map_map]
  exact List.map_congr_left fun twin mem => Twin.holds_clause (agree twin mem)

theorem agree_of_conjunctive (agree : ∀ twin ∈ twins, twin.Agrees document row)
    (conjunctive : Conjunctive (twins.map Twin.joint)) :
    document.satisfies (Search.settledQuery (twins.map Twin.offer)) =
      row.satisfiesAll (twins.map Twin.clause) := by
  have joined : ∀ twin ∈ twins, twin.conjunction ≠ .or :=
    fun twin mem => conjunctive twin.joint (List.mem_map_of_mem mem)
  have offers : ∀ offer ∈ twins.map Twin.offer, offer.conjunction ≠ .or := by
    simpa [Twin.offer] using joined
  have clauses : ∀ clause ∈ twins.map Twin.clause, clause.conjunction ≠ .or := by
    simpa [Twin.clause] using joined
  calc document.satisfies (Search.settledQuery (twins.map Twin.offer))
      _ = (twins.map Twin.offer).all document.holds :=
        Search.satisfies_settledQuery_of_and document offers
      _ = ((twins.map Twin.offer).map document.holds).all id := by simp
      _ = ((twins.map Twin.clause).map row.holds).all id := by rw [map_holds_clause agree]
      _ = (twins.map Twin.clause).all row.holds := by simp
      _ = row.satisfiesAll (twins.map Twin.clause) :=
        (Relational.satisfiesAll_of_and row clauses).symm

theorem agree_of_disjunctive (agree : ∀ twin ∈ twins, twin.Agrees document row)
    (disjunctive : Disjunctive (twins.map Twin.joint)) :
    document.satisfies (Search.settledQuery (twins.map Twin.offer)) =
      row.satisfiesAll (twins.map Twin.clause) := by
  cases twins with
  | nil => simp [Search.settledQuery, Search.Document.satisfies, Relational.Row.satisfiesAll]
  | cons first rest =>
      obtain ⟨joined, free, positive⟩ := disjunctive
      have offers : ∀ offer ∈ rest.map Twin.offer, offer.conjunction = .or := by
        simpa [Twin.joint, Twin.offer] using joined
      have clauses : ∀ clause ∈ rest.map Twin.clause, clause.conjunction = .or := by
        simpa [Twin.joint, Twin.clause] using joined
      have signs : ∀ offer ∈ first.offer :: rest.map Twin.offer,
          Search.negates offer.operator offer.conjunction = false := by
        simpa [Twin.joint, Twin.offer] using positive
      calc document.satisfies (Search.settledQuery ((first :: rest).map Twin.offer))
          _ = ((first :: rest).map Twin.offer).any document.holds :=
            Search.satisfies_settledQuery_of_or document (free first.joint (by simp)) offers signs
          _ = (((first :: rest).map Twin.offer).map document.holds).any id := by simp
          _ = (((first :: rest).map Twin.clause).map row.holds).any id := by
            rw [map_holds_clause agree]
          _ = ((first :: rest).map Twin.clause).any row.holds := by simp
          _ = row.satisfiesAll ((first :: rest).map Twin.clause) :=
            (Relational.satisfiesAll_of_or row clauses).symm

end Level

structure Rendering (α : Type) where
  search : α → Search.Query
  relational : α → Operator → Relational.Query

variable {α : Type}

namespace Rendering

def queries (rendering : Rendering α) : Family → Queries α
  | .relational => fun atom operator => some (.relational (rendering.relational atom operator))
  | .search => fun atom _ => some (.search (rendering.search atom))

/-- Document and row see the atoms under one assignment of truth. The search query of an atom leaves
the sign of the operator to its clause, the relational one has it in itself. -/
structure Reads (rendering : Rendering α) (document : Search.Document) (row : Relational.Row)
    (truth : α → Bool) : Prop where
  search : ∀ atom, document.satisfies (rendering.search atom) = truth atom
  relational : ∀ atom operator,
    row.satisfies (rendering.relational atom operator) = (truth atom != (operator == .notEqual))

theorem ofFamily_queries (rendering : Rendering α) (family : Family) (items : List (Item α)) :
    EveryLevel (OfFamily family (rendering.queries family)) items := by
  have all : ∀ level, OfFamily family (rendering.queries family) level := by
    intro level conjunction atom operator _ query given
    cases family <;> cases given <;> rfl
  exact ⟨all items, innerLevels_of_forall all items⟩

end Rendering

/-- The clause that a group becomes; without clauses inside it vanishes. -/
def groupTwins (conjunction : Conjunction) (inner : List Twin) : List Twin :=
  if inner.isEmpty then []
  else [⟨conjunction, .equal, Search.settledQuery (inner.map Twin.offer),
    .group (inner.map Twin.clause)⟩]

mutual

def itemTwins (rendering : Rendering α) : Item α → List Twin
  | .term conjunction atom operator =>
    [⟨conjunction, operator, rendering.search atom, rendering.relational atom operator⟩]
  | .group conjunction items => groupTwins conjunction (twins rendering items)

def twins (rendering : Rendering α) : List (Item α) → List Twin
  | [] => []
  | item :: items => itemTwins rendering item ++ twins rendering items

end

def addTwins (twins : List Twin) : Level.Clauses → Level.Clauses
  | .relational kind clauses => .relational kind (clauses ++ twins.map Twin.clause)
  | .search fold => .search (fold.addAll (twins.map Twin.offer))

theorem addTwins_nil (clauses : Level.Clauses) : addTwins [] clauses = clauses := by
  cases clauses <;> simp [addTwins, Search.Fold.addAll]

theorem addTwins_append (first second : List Twin) (clauses : Level.Clauses) :
    addTwins (first ++ second) clauses = addTwins second (addTwins first clauses) := by
  cases clauses <;> simp [addTwins, Search.Fold.addAll_append]

theorem add?_twin {dialect : Dialect} {clauses : Level.Clauses} (fits : clauses.Fits dialect)
    (twin : Twin) :
    clauses.add? twin.conjunction (twin.query dialect.family) twin.operator =
      some (addTwins [twin] clauses) := by
  rw [← fits.family_eq]
  cases clauses <;> rfl

theorem add_twin {dialect : Dialect} {level : Level} (fits : level.clauses.Fits dialect)
    (twin : Twin) (placed : level.refusal? twin.conjunction = none) :
    (level.add twin.conjunction (some (twin.query dialect.family)) twin.operator).state =
      ⟨level.termsSeen + 1, addTwins [twin] level.clauses⟩ := by
  simp [Level.add, placed, add?_twin fits twin]

theorem group?_addTwins (dialect : Dialect) (conjunction : Conjunction) (inner : List Twin) :
    (addTwins inner (.empty dialect)).group? =
      (groupTwins conjunction inner).head?.map fun twin => twin.query dialect.family := by
  have relational (kind : RelationalDialect) :
      (addTwins inner (.relational kind [])).group? =
        (groupTwins conjunction inner).head?.map fun twin => twin.query .relational := by
    cases inner <;> simp [addTwins, groupTwins, Twin.query, Level.Clauses.group?]
  have search : (addTwins inner (.search {})).group? =
      (groupTwins conjunction inner).head?.map fun twin => twin.query .search := by
    simp only [addTwins, Level.Clauses.group?, Search.Fold.query?_addAll]
    cases inner <;> simp [groupTwins, Twin.query]
  cases dialect with
  | jpql => exact relational .jpql
  | sql => exact relational .sql
  | search => exact search

theorem clauses_add_group {dialect : Dialect} {level : Level} (fits : level.clauses.Fits dialect)
    {conjunction : Conjunction} (placed : level.refusal? conjunction = none)
    (inner : List Twin) :
    (level.add conjunction (addTwins inner (.empty dialect)).group? .equal).state.clauses =
      addTwins (groupTwins conjunction inner) level.clauses := by
  rw [group?_addTwins dialect conjunction inner]
  by_cases vanished : inner.isEmpty = true
  · simp [groupTwins, vanished, Level.add, placed, addTwins_nil]
  · have kept := add_twin fits ⟨conjunction, .equal, Search.settledQuery (inner.map Twin.offer),
      .group (inner.map Twin.clause)⟩ placed
    simp [groupTwins, vanished, kept]

/-- Folding an expression into a level adds its clauses, the same ones in both families. -/
theorem clauses_addItems (rendering : Rendering α) {dialect : Dialect} (items : List (Item α))
    {level : Level} (fits : level.clauses.Fits dialect) (placed : Placed level items)
    (inner : innerLevels NoneFirst items) :
    (addItems dialect (rendering.queries dialect.family) level items).clauses =
      addTwins (twins rendering items) level.clauses := by
  induction items using forest_induction generalizing level with
  | nil => rw [addItems, twins, addTwins_nil]
  | term conjunction atom operator items ih =>
      let twin : Twin :=
        ⟨conjunction, operator, rendering.search atom, rendering.relational atom operator⟩
      have given : rendering.queries dialect.family atom operator =
          some (twin.query dialect.family) := by
        cases dialect <;> rfl
      have rest := ih (Level.fits_add fits conjunction (some (twin.query dialect.family)) operator)
        placed.tail (innerLevels_term.mp inner)
      rw [addItems, addItem, given, rest, add_twin fits twin placed.head, twins, itemTwins,
        addTwins_append]
  | group conjunction group items ihGroup ih =>
      obtain ⟨groupPlaced, innerPlaced⟩ := innerLevels_group.mp inner
      have body := ihGroup (Level.Clauses.fits_empty dialect)
        (placed_start dialect groupPlaced.1) groupPlaced.2
      have opens : level.refusal? conjunction = none := placed.head
      have first := clauses_add_group fits opens (twins rendering group)
      have rest := ih (Level.fits_add fits conjunction
        (addTwins (twins rendering group) (.empty dialect)).group? .equal) placed.tail innerPlaced
      rw [addItems, addItem, body, twins, itemTwins, addTwins_append, ← first]
      exact rest

/-- Inequality and NOT stand together or are both absent. -/
def IsPositive : Item α → Prop
  | .term conjunction _ operator => operator = .notEqual ↔ conjunction = .not
  | .group conjunction _ => conjunction ≠ .not

/-- A level without OR, whatever its operators are, or one in which every item after the first comes
with OR, the first does not come with AND, and no item is negative. -/
def Homogeneous (level : List (Item α)) : Prop :=
  (∀ item ∈ level, item.conjunction ≠ .or) ∨
    ((∀ item ∈ level.tail, item.conjunction = .or) ∧
      (∀ item ∈ level.head?, item.conjunction ≠ .and) ∧ ∀ item ∈ level, IsPositive item)

def itemJoint : Item α → Joint
  | .term conjunction _ operator => (conjunction, operator)
  | .group conjunction _ => (conjunction, .equal)

theorem itemJoint_fst (item : Item α) : (itemJoint item).1 = item.conjunction := by
  cases item <;> rfl

theorem negates_itemJoint {item : Item α} (positive : IsPositive item) :
    Search.negates (itemJoint item).2 (itemJoint item).1 = false := by
  cases item with
  | term conjunction atom operator =>
      cases operator <;> cases conjunction <;> simp_all [IsPositive, itemJoint] <;> rfl
  | group conjunction items =>
      cases conjunction <;> simp_all [IsPositive, itemJoint] <;> rfl

theorem Homogeneous.joints {level : List (Item α)} (homogeneous : Homogeneous level) :
    Conjunctive (level.map itemJoint) ∨ Disjunctive (level.map itemJoint) := by
  obtain joined | ⟨joined, first, positive⟩ := homogeneous
  · left
    rw [Conjunctive, List.forall_mem_map]
    intro item mem
    rw [itemJoint_fst]
    exact joined item mem
  · right
    rw [Disjunctive, ← List.map_tail, List.forall_mem_map, List.forall_mem_map,
      List.forall_mem_map]
    refine ⟨?_, ?_, fun item mem => negates_itemJoint (positive item mem)⟩
    · intro item mem
      rw [itemJoint_fst]
      exact joined item mem
    · intro item mem
      rw [itemJoint_fst]
      cases level with
      | nil => cases mem
      | cons head tail =>
          obtain rfl | later := List.mem_cons.mp mem
          · exact first item rfl
          · rw [joined item later]
            decide

theorem joint_itemTwins_sublist (rendering : Rendering α) (item : Item α) :
    ((itemTwins rendering item).map Twin.joint).Sublist [itemJoint item] := by
  cases item with
  | term conjunction atom operator => exact List.Sublist.refl _
  | group conjunction items =>
      rw [itemTwins, groupTwins]
      split
      · exact List.nil_sublist _
      · exact List.Sublist.refl _

theorem joint_twins_sublist (rendering : Rendering α) (items : List (Item α)) :
    ((twins rendering items).map Twin.joint).Sublist (items.map itemJoint) := by
  induction items with
  | nil => exact List.Sublist.refl _
  | cons item items ih =>
      rw [twins, List.map_append]
      exact (joint_itemTwins_sublist rendering item).append ih

section Tree

variable {rendering : Rendering α} {document : Search.Document} {row : Relational.Row}
  {truth : α → Bool}

theorem agree_of_homogeneous {items : List (Item α)} (homogeneous : Homogeneous items)
    (agree : ∀ twin ∈ twins rendering items, twin.Agrees document row) :
    document.satisfies (Search.settledQuery ((twins rendering items).map Twin.offer)) =
      row.satisfiesAll ((twins rendering items).map Twin.clause) := by
  have sub := joint_twins_sublist rendering items
  obtain conjunctive | disjunctive := homogeneous.joints
  · exact agree_of_conjunctive agree (conjunctive.sublist sub)
  · exact agree_of_disjunctive agree (disjunctive.sublist sub)

theorem agrees_of_mem_twins (reads : rendering.Reads document row truth) (items : List (Item α))
    (inner : innerLevels Homogeneous items) :
    ∀ twin ∈ twins rendering items, twin.Agrees document row := by
  -- Atoms agree by assumption, and a group agrees because its own clauses do.
  induction items using forest_induction with
  | nil =>
      intro twin mem
      cases mem
  | term conjunction atom operator items ih =>
      intro twin mem
      rw [twins, itemTwins] at mem
      obtain rfl | later := List.mem_cons.mp mem
      · rw [Twin.Agrees, reads.relational, reads.search]
      · exact ih (innerLevels_term.mp inner) twin later
  | group conjunction group items ihGroup ih =>
      obtain ⟨homogeneous, innerItems⟩ := innerLevels_group.mp inner
      intro twin mem
      rw [twins, itemTwins, groupTwins] at mem
      obtain here | later := List.mem_append.mp mem
      · split at here
        · cases here
        · cases List.mem_singleton.mp here
          have level := agree_of_homogeneous homogeneous.1 (ihGroup homogeneous.2)
          rw [Twin.Agrees, Relational.Row.satisfies, ← level]
          exact (Bool.bne_false _).symm
      · exact ih innerItems twin later

end Tree

theorem clauses_addItems_start (rendering : Rendering α) (dialect : Dialect)
    {items : List (Item α)} (noneFirst : EveryLevel NoneFirst items) :
    (addItems dialect (rendering.queries dialect.family) (.start dialect) items).clauses =
      addTwins (twins rendering items) (.empty dialect) :=
  clauses_addItems rendering items (Level.Clauses.fits_empty dialect)
    (placed_start dialect noneFirst.1) noneFirst.2

theorem compiled_relational (rendering : Rendering α) {settings : Settings}
    {kind : RelationalDialect} (relational : settings.dialect.relational? = some kind)
    {items : List (Item α)} (noneFirst : EveryLevel NoneFirst items) :
    compiled settings (rendering.queries settings.dialect.family) items = .relational
      { dialect := kind, preamble := settings.preamble,
        clauses := (twins rendering items).map Twin.clause, sort := [], startIndex := none,
        limit := none } := by
  have empty : Level.Clauses.empty settings.dialect = .relational kind [] := by
    simp [Level.Clauses.empty, relational]
  rw [compiled, clauses_addItems_start rendering settings.dialect noneFirst, empty, addTwins]
  rfl

theorem compiled_search (rendering : Rendering α) {settings : Settings}
    (search : settings.dialect.relational? = none) {items : List (Item α)}
    (noneFirst : EveryLevel NoneFirst items) :
    compiled settings (rendering.queries settings.dialect.family) items = .search
      { query := Search.settledQuery ((twins rendering items).map Twin.offer), sort := [],
        startIndex := none, limit := none } := by
  have empty : Level.Clauses.empty settings.dialect = .search {} := by
    simp [Level.Clauses.empty, search]
  rw [compiled, clauses_addItems_start rendering settings.dialect noneFirst, empty, addTwins]
  simp only [Search.Fold.query_addAll]

theorem runsTo_start (rendering : Rendering α) (settings : Settings) (resolver : Resolver)
    {items : List (Item α)} (noneFirst : EveryLevel NoneFirst items) :
    ∃ after, Pass.RunsTo resolver (.start settings)
        (steps (rendering.queries settings.dialect.family) items) after ∧
      after.finish = .ok (compiled settings (rendering.queries settings.dialect.family) items) :=
  ⟨_, runsTo_steps resolver items (Pass.LevelsFit.start settings)
    (placed_start settings.dialect noneFirst.1) noneFirst.2
    (rendering.ofFamily_queries settings.dialect.family items),
    finish_setCurrent_start settings items⟩

/-- An expression of homogeneous levels, fed step by step to a relational pass and to a search pass,
is accepted by both, and what they finish with selects the same: the search query matches a document
exactly when the condition holds of the row, whatever the truth of the atoms is. -/
theorem matches_iff_condition_holds {rendering : Rendering α} {document : Search.Document}
    {row : Relational.Row} {truth : α → Bool} (reads : rendering.Reads document row truth)
    {items : List (Item α)} (noneFirst : EveryLevel NoneFirst items)
    (homogeneous : EveryLevel Homogeneous items) {database index : Settings}
    (relational : database.dialect ≠ .search) (search : index.dialect = .search)
    (resolver : Resolver) :
    ∃ stored found statement request,
      Pass.RunsTo resolver (.start database) (steps (rendering.queries .relational) items) stored ∧
      stored.finish = .ok (.relational statement) ∧
      Pass.RunsTo resolver (.start index) (steps (rendering.queries .search) items) found ∧
      found.finish = .ok (.search request) ∧
      (document.satisfies request.query = true ↔ row.satisfiesAll statement.clauses = true) := by
  have level := agree_of_homogeneous homogeneous.1 (agrees_of_mem_twins reads items homogeneous.2)
  obtain ⟨kind, relational⟩ : ∃ kind, database.dialect.relational? = some kind := by
    cases h : database.dialect with
    | jpql => exact ⟨.jpql, rfl⟩
    | sql => exact ⟨.sql, rfl⟩
    | search => exact absurd h relational
  have databaseFamily : database.dialect.family = .relational := by
    cases h : database.dialect <;> simp_all [Dialect.relational?, Dialect.family]
  have indexFamily : index.dialect.family = .search := by rw [search]; rfl
  have stored := runsTo_start rendering database resolver noneFirst
  have found := runsTo_start rendering index resolver noneFirst
  rw [compiled_relational rendering relational noneFirst, databaseFamily] at stored
  rw [compiled_search rendering (by rw [search]; rfl) noneFirst, indexFamily] at found
  obtain ⟨stored, storedRun, storedFinish⟩ := stored
  obtain ⟨found, foundRun, foundFinish⟩ := found
  exact ⟨stored, found, _, _, storedRun, storedFinish, foundRun, foundFinish, by rw [level]⟩

def codeRendering : Rendering String where
  search value := .phrase "code" [value]
  relational value operator := .comparison "code" operator (.string value)

/-- The document with the one value, seen by an index and by a database. -/
def documentOf (value : String) : Search.Document where
  phrase _ terms := decide (terms = [value])
  range _ := false

def rowOf (value : String) : Relational.Row where
  comparison _ operator literal := decide (literal = .string value) != (operator == .notEqual)
  membership _ _ _ := false

theorem codeRendering_reads (value : String) :
    codeRendering.Reads (documentOf value) (rowOf value) (fun atom => decide (atom = value)) := by
  refine ⟨fun atom => ?_, fun atom operator => ?_⟩
  · simp [codeRendering, documentOf, Search.Document.satisfies]
  · simp [codeRendering, rowOf, Relational.Row.satisfies]

/-- An empty group leads, so that a negation is first of the clauses; a group of alternatives is
taken away, the first of them negated twice. -/
def homogeneousItems : List (Item String) :=
  [.group .none [], .term .and "a" .notEqual,
   .group .not [.term .not "b" .notEqual, .term .or "c" .equal], .term .not "d" .notEqual]

theorem matches_iff_condition_holds_sample :
    EveryLevel NoneFirst homogeneousItems ∧ EveryLevel Homogeneous homogeneousItems ∧
      ∃ stored found statement request,
        Pass.RunsTo ({} : FieldTable).resolve (.ofDialect .sql)
          (steps (codeRendering.queries .relational) homogeneousItems) stored ∧
        stored.finish = .ok (.relational statement) ∧
        Pass.RunsTo ({} : FieldTable).resolve (.ofDialect .search)
          (steps (codeRendering.queries .search) homogeneousItems) found ∧
        found.finish = .ok (.search request) ∧
        ((documentOf "d").satisfies request.query = true ↔
          (rowOf "d").satisfiesAll statement.clauses = true) := by
  have noneFirst : EveryLevel NoneFirst homogeneousItems := by
    simp [EveryLevel, innerLevels, itemLevels, NoneFirst, Item.conjunction, homogeneousItems]
  have homogeneous : EveryLevel Homogeneous homogeneousItems := by
    simp [EveryLevel, innerLevels, itemLevels, Homogeneous, Item.conjunction, IsPositive,
      homogeneousItems]
  exact ⟨noneFirst, homogeneous, matches_iff_condition_holds (codeRendering_reads "d") noneFirst
    homogeneous (by decide) rfl ({} : FieldTable).resolve⟩

end Expression
end FieldQuery
