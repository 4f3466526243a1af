import FieldQuery.Proofs.Pass.Refusals
import FieldQuery.Proofs.Search.SoundTrees

/-!
The trees that a pass over terms ends with. As long as no query comes from outside, everything that
a level is offered is a compiled term or a closed group, and both are sound. So is what the level
makes of them, at every depth, whichever steps were refused or left nothing behind on the way.
-/

namespace FieldQuery

/-- A search query that may stand in any clause. -/
def FamilyQuery.Proper (query : FamilyQuery) : Prop :=
  ∃ tree : Search.Query, query = .search tree ∧ tree.Proper

theorem FamilyQuery.proper_ofTerm? {settings : Settings} (search : settings.dialect = .search)
    {term : ResolvedTerm} {operator : Operator} {query : FamilyQuery}
    (h : FamilyQuery.ofTerm? settings term operator = .ok (some query)) : query.Proper := by
  simp only [FamilyQuery.ofTerm?, search, Dialect.family] at h
  cases compiled : Search.Query.ofTerm? settings.datePattern term operator with
  | error error => simp [compiled, Except.map] at h
  | ok tree? =>
      simp only [compiled, Except.map, Except.ok.injEq] at h
      obtain ⟨tree, rfl, rfl⟩ := Option.map_eq_some_iff.mp h
      exact ⟨tree, rfl, Search.proper_ofTerm? compiled⟩

namespace Level

/-- A level of a search that was offered proper queries only. -/
def Proper (level : Level) : Prop :=
  ∃ offers : List Search.Offer, level.clauses = .search (.addAll {} offers) ∧
    ∀ offer ∈ offers, offer.query.Proper

namespace Proper

variable {level : Level}

theorem start : (Level.start .search).Proper := ⟨[], rfl, nofun⟩

theorem add (proper : level.Proper) {query : Option FamilyQuery}
    (given : ∀ q, query = some q → q.Proper) (conjunction : Conjunction) (operator : Operator) :
    (level.add conjunction query operator).state.Proper := by
  obtain ⟨offers, clauses, each⟩ := proper
  obtain ⟨-, eq⟩ | ⟨-, -, eq⟩ | ⟨q, added, -, rfl, taken, eq⟩ | ⟨q, -, -, -, eq⟩ :=
    level.add_cases conjunction query operator <;> rw [eq]
  · exact ⟨offers, clauses, each⟩
  · exact ⟨offers, clauses, each⟩
  · obtain ⟨tree, rfl, sound⟩ := given q rfl
    rw [clauses] at taken
    cases taken
    refine ⟨offers ++ [⟨conjunction, tree, operator⟩], ?_, ?_⟩
    · rw [Search.Fold.addAll_append]
      rfl
    · intro offer mem
      obtain mem | mem := List.mem_append.mp mem
      · exact each offer mem
      · cases List.mem_singleton.mp mem
        exact sound
  · exact ⟨offers, clauses, each⟩

theorem group? (proper : level.Proper) {query : FamilyQuery}
    (h : level.clauses.group? = some query) : query.Proper := by
  obtain ⟨offers, clauses, each⟩ := proper
  simp only [clauses, Clauses.group?, Search.Fold.query?_addAll] at h
  obtain ⟨tree, built, rfl⟩ := Option.map_eq_some_iff.mp h
  split at built
  · cases built
  · rename_i nonempty
    cases built
    exact ⟨_, rfl, Search.proper_settledQuery (by simpa using nonempty) each⟩

end Proper
end Level

namespace Pass

/-- The step brings no query that was compiled elsewhere. -/
def Step.compilesOwn : Step → Bool
  | .addClause _ query _ => query.isNone
  | .addTerm .. | .openGroup _ | .closeGroup | .setSort _ | .setLimit _ | .setStartIndex _
  | .setPreamble _ => true

structure ProperSearch (pass : Pass) : Prop where
  dialect : pass.settings.dialect = .search
  levels : ∀ level ∈ pass.levels, level.Proper

namespace ProperSearch

variable {pass : Pass}

theorem start {settings : Settings} (search : settings.dialect = .search) :
    ProperSearch (.start settings) := by
  refine ⟨search, fun level mem => ?_⟩
  rw [levels_start, search] at mem
  cases List.mem_singleton.mp mem
  exact .start

theorem current (proper : ProperSearch pass) : pass.current.Proper :=
  proper.levels _ (by rw [levels_eq_cons]; exact List.mem_cons_self ..)

theorem push (proper : ProperSearch pass) (conjunction : Conjunction) :
    ProperSearch (pass.push conjunction (.start pass.settings.dialect)) := by
  refine ⟨proper.dialect, fun level mem => ?_⟩
  rw [levels_push, proper.dialect] at mem
  obtain rfl | mem := List.mem_cons.mp mem
  · exact .start
  · exact proper.levels level mem

theorem of_push {conjunction : Conjunction} {level : Level}
    (proper : ProperSearch (pass.push conjunction level)) : ProperSearch pass :=
  ⟨proper.dialect, fun other mem => proper.levels other (List.mem_cons_of_mem _ mem)⟩

theorem addClause (proper : ProperSearch pass) {query : Option FamilyQuery}
    (given : ∀ q, query = some q → q.Proper) (conjunction : Conjunction) (operator : Operator) :
    ProperSearch (pass.addClause conjunction query operator).state := by
  refine ⟨by simpa [Pass.addClause] using proper.dialect, fun level mem => ?_⟩
  simp only [Pass.addClause, levels_setCurrent] at mem
  obtain rfl | mem := List.mem_cons.mp mem
  · exact proper.current.add given conjunction operator
  · exact proper.levels level (List.mem_of_mem_tail mem)

theorem step (proper : ProperSearch pass) (resolver : Resolver) {step : Step}
    (own : step.compilesOwn) : ProperSearch (pass.step resolver step).state := by
  cases step with
  | addTerm conjunction term =>
      obtain ⟨error, eq, -⟩ | ⟨query, -, compiled, eq⟩ :=
        pass.addTerm_cases resolver conjunction term <;> rw [Pass.step, eq]
      · exact proper
      · refine proper.addClause ?_ conjunction term.operator
        rintro q rfl
        obtain ⟨resolved, -, compiled⟩ := exists_of_bind_eq_ok compiled
        exact FamilyQuery.proper_ofTerm? proper.dialect compiled
  | addClause conjunction query operator =>
      cases Option.isNone_iff_eq_none.mp own
      refine proper.addClause ?_ conjunction operator
      intro q built
      cases built
  | openGroup conjunction =>
      cases refused : pass.current.refusal? conjunction with
      | some error => simpa [Pass.step, openGroup, refused] using proper
      | none => simpa [Pass.step, openGroup_eq_push refused] using proper.push conjunction
  | closeGroup =>
      obtain none | ⟨outer, conjunction, level, rfl⟩ := pass.groups_eq_nil_or_push
      · simpa [Pass.step, closeGroup_eq_of_nil none] using proper
      · have closed : level.Proper := proper.current
        rw [Pass.step, closeGroup_push]
        exact proper.of_push.addClause (fun q built => closed.group? built) conjunction .equal
  | setSort _ | setLimit _ | setStartIndex _ | setPreamble _ =>
      exact ⟨proper.dialect, proper.levels⟩

theorem play (proper : ProperSearch pass) {script : List (Resolver × Step)}
    (own : ∀ call ∈ script, call.2.compilesOwn) : ProperSearch (pass.play script).1 := by
  induction script generalizing pass with
  | nil => exact proper
  | cons call script ih =>
      obtain ⟨resolver, step⟩ := call
      exact ih (proper.step resolver (own _ (List.mem_cons_self ..)))
        fun call mem => own call (List.mem_cons_of_mem _ mem)

/-- A finished search has the query that its root folded, which is proper or matches everything. -/
theorem finish (proper : ProperSearch pass) {compiled : Compiled}
    (finished : pass.finish = .ok compiled) :
    ∃ request, compiled = .search request ∧
      (request.query = .matchAll ∨ ∃ clauses, request.query = .boolean clauses) ∧
      request.query.Sound := by
  obtain ⟨offers, clauses, each⟩ : pass.root.Proper := proper.levels _ (by simp [Pass.levels])
  unfold Pass.finish at finished
  split at finished
  · cases finished
  · rw [clauses] at finished
    cases finished
    refine ⟨_, rfl, ?_⟩
    simp only [Search.Fold.query_addAll]
    cases offers with
    | nil => exact ⟨.inl rfl, Search.Query.sound_matchAll⟩
    | cons first rest =>
        exact ⟨.inr ⟨_, rfl⟩, (Search.proper_settledQuery (List.cons_ne_nil _ _) each).sound⟩

end ProperSearch

/-- Whatever terms a search is given, in whatever groups and with whatever refusals in between, the
query that it ends with is sound at every depth. -/
theorem finished_search_sound {settings : Settings} (search : settings.dialect = .search)
    {script : List (Resolver × Step)} (own : ∀ call ∈ script, call.2.compilesOwn)
    {compiled : Compiled} (finished : ((start settings).play script).1.finish = .ok compiled) :
    ∃ request, compiled = .search request ∧
      (request.query = .matchAll ∨ ∃ clauses, request.query = .boolean clauses) ∧
      (∀ clauses, (Search.Query.boolean clauses).Within request.query →
        Search.SoundClauses clauses) ∧
      (∀ field terms, (Search.Query.phrase field terms).Within request.query → terms ≠ []) ∧
      ∀ range, (Search.Query.range range).Within request.query →
        range.lower.isSome ≠ range.upper.isSome := by
  obtain ⟨request, rfl, root, sound⟩ := ((ProperSearch.start search).play own).finish finished
  exact ⟨request, rfl, root, fun clauses => sound _, fun field terms => sound _,
    fun range => sound _⟩

/-- Codes, the codes of stores, and prices. -/
def shopFields : FieldTable :=
  (({} : FieldTable).insert "Code" ⟨"code", .string, false, false⟩).insert "Store"
    ⟨"storeCode", .string, true, false⟩ |>.insert "Price" ⟨"price", .decimal, false, false⟩

/-- A negation leads, and so does another inside the group. In between a second NONE and an unknown
field are refused, a term of no values vanishes, and one closing too many is refused. -/
def shopScript : List (Resolver × Step) :=
  [.addTerm .none ⟨"Code", .notEqual, ["x"]⟩, .addTerm .none ⟨"Code", .equal, ["y"]⟩,
    .openGroup .and, .addTerm .none ⟨"Code", .equal, []⟩,
    .addTerm .not ⟨"Store", .equal, ["A", "B"]⟩, .addTerm .or ⟨"Price", .more, ["10.00"]⟩,
    .addTerm .or ⟨"Nope", .equal, ["z"]⟩, .closeGroup, .closeGroup,
    .addClause .and none .equal].map fun step => (shopFields.resolve, step)

def shopQuery : Search.Query :=
  .boolean [⟨.optional, .matchAll⟩, ⟨.prohibited, .phrase "code" ["x"]⟩,
    ⟨.required, .boolean [⟨.optional, .matchAll⟩,
      ⟨.prohibited, .boolean [⟨.optional, .phrase "storeCode" ["A"]⟩,
        ⟨.optional, .phrase "storeCode" ["B"]⟩]⟩,
      ⟨.optional, .range ⟨"price", some "10.00", none, false⟩⟩]⟩]

theorem finished_search_sound_shop :
    ((start {}).play shopScript).2 =
        [none, some .misplacedConjunction, none, none, none, none, some (.unknownField "Nope"),
          none, some (.unbalancedGroup .nothingToClose), none] ∧
      ((start {}).play shopScript).1.finish =
        .ok (.search { query := shopQuery, sort := [], startIndex := none, limit := none }) ∧
      ∀ clauses, (Search.Query.boolean clauses).Within shopQuery →
        Search.SoundClauses clauses := by
  have finished : ((start {}).play shopScript).1.finish =
      .ok (.search { query := shopQuery, sort := [], startIndex := none, limit := none }) := rfl
  obtain ⟨request, eq, -, sound, -⟩ := finished_search_sound rfl (by decide) finished
  cases eq
  exact ⟨rfl, finished, sound⟩

end Pass
end FieldQuery
