import FieldQuery.Proofs.Calendar.Writable
import FieldQuery.Proofs.Pass.Reached

/-!
Where a date that cannot be written comes from. Only the indexed form of a date or a moment is
written by the pattern of the settings, so the failure needs a search, a value that is a date, and a
pattern that asks for the time zone. Settings with such a pattern pass their check, and from them
the failure is one step away; with any other settings that pass, no step of any pass meets it.
-/

namespace FieldQuery

/-- The failure of writing a date, on which a caller ends its work. -/
def Unwritable {β : Type} (result : Except Error β) : Prop :=
  ∃ pattern, result = .error (.unwritableDate pattern)

/-- A resolver only answers: it writes no dates of its own. -/
def Resolver.Answers (resolver : Resolver) : Prop := ∀ term, ¬ Unwritable (resolver term)

section Results

variable {β γ : Type}

@[simp] theorem unwritable_ok (value : β) : ¬ Unwritable (.ok value) := by
  rintro ⟨pattern, h⟩
  cases h

@[simp] theorem unwritable_pure (value : β) : ¬ Unwritable (pure value) := unwritable_ok value

@[simp] theorem unwritable_error (error : Error) :
    Unwritable (.error error : Except Error β) ↔ ∃ pattern, error = .unwritableDate pattern := by
  simp [Unwritable]

@[simp] theorem unwritable_bind (result : Except Error β) (next : β → Except Error γ) :
    Unwritable (result >>= next) ↔
      Unwritable result ∨ ∃ value, result = .ok value ∧ Unwritable (next value) := by
  cases result with
  | error error => simp [bind, Except.bind]
  | ok value => simp [bind, Except.bind]

@[simp] theorem unwritable_map (f : β → γ) (result : Except Error β) :
    Unwritable (result.map f) ↔ Unwritable result := by
  cases result <;> simp [Except.map]

@[simp] theorem unwritable_functor_map (f : β → γ) (result : Except Error β) :
    Unwritable (f <$> result) ↔ Unwritable result := unwritable_map f result

theorem unwritable_mapM {f : β → Except Error γ} {values : List β}
    (h : Unwritable (values.mapM f)) : ∃ value ∈ values, Unwritable (f value) := by
  induction values with
  | nil => exact absurd h (unwritable_pure _)
  | cons value values ih =>
      rw [List.mapM_cons, unwritable_bind] at h
      obtain here | ⟨first, -, h⟩ := h
      · exact ⟨value, List.mem_cons_self .., here⟩
      · rw [unwritable_bind] at h
        obtain later | ⟨rest, -, h⟩ := h
        · obtain ⟨other, mem, unwritable⟩ := ih later
          exact ⟨other, List.mem_cons_of_mem _ mem, unwritable⟩
        · exact absurd h (unwritable_pure _)

end Results

namespace Value

@[simp] theorem not_unwritable_number (field : String) (type : FieldType) (value : String) :
    ¬ Unwritable (number field type value) := by
  simp only [number]
  split <;> split <;> simp

@[simp] theorem not_unwritable_boolean (field value : String) :
    ¬ Unwritable (boolean field value) := by
  simp only [boolean]
  split <;> simp

@[simp] theorem not_unwritable_moment (field value : String) :
    ¬ Unwritable (moment field value) := by
  simp only [moment]
  split <;> simp

@[simp] theorem not_unwritable_date (field value : String) : ¬ Unwritable (date field value) := by
  simp only [date]
  split
  · simp
  · simp only [unwritable_bind, not_unwritable_moment, false_or, not_exists, not_and]
    intro moment _
    split <;> simp

theorem unwritable_formatted_iff (pattern : String) (moment : Calendar.Moment) :
    Unwritable (formatted pattern moment) ↔ Calendar.isWritable pattern = false := by
  rw [← Calendar.format?_isSome moment pattern, formatted]
  cases moment.format? pattern <;> simp

/-- The value is a date on a field of dates, or a moment on a field of moments. -/
def IsTemporal (field : String) (type : FieldType) (value : String) : Prop :=
  (type = .date ∧ ∃ d, date field value = .ok d) ∨
    (type = .dateTime ∧ ∃ m, moment field value = .ok m)

theorem unwritable_indexed_iff (pattern field : String) (type : FieldType) (value : String) :
    Unwritable (indexed pattern field type value) ↔
      Calendar.isWritable pattern = false ∧ IsTemporal field type value := by
  cases type with
  | date => simp [indexed, IsTemporal, unwritable_formatted_iff, and_comm]
  | dateTime => simp [indexed, IsTemporal, unwritable_formatted_iff, and_comm]
  | string | text | enum | boolean | integer | float | decimal => simp [indexed, IsTemporal]

end Value

namespace ResolvedTerm

@[simp] theorem not_unwritable_checkCount (term : ResolvedTerm) : ¬ Unwritable term.checkCount := by
  simp only [checkCount]
  split <;> simp [tooManyValues]

@[simp] theorem not_unwritable_singleValue (term : ResolvedTerm) :
    ¬ Unwritable term.singleValue := by
  simp only [singleValue]
  split <;> simp [tooManyValues]

end ResolvedTerm

theorem Relational.not_unwritable_ofTerm (term : ResolvedTerm) (operator : Operator) :
    ¬ Unwritable (Relational.Query.ofTerm term operator) := by
  -- A literal keeps the date itself; no pattern is asked.
  have literal : ∀ value, ¬ Unwritable (Literal.ofValue term.field term.type value) := by
    intro value
    cases h : term.type <;> simp [Literal.ofValue]
  have several : ¬ Unwritable (Relational.Query.ofValues term operator) := by
    simp only [Query.ofValues]
    split
    · simp [ResolvedTerm.tooManyValues]
    · intro h
      rw [unwritable_bind] at h
      obtain h | ⟨literals, -, h⟩ := h
      · obtain ⟨value, -, h⟩ := unwritable_mapM h
        exact literal value h
      · exact unwritable_pure _ h
  have single : ¬ Unwritable (Relational.Query.ofSingleValue term operator) := by
    simp [Query.ofSingleValue, literal]
  simp only [Query.ofTerm, unwritable_bind, ResolvedTerm.not_unwritable_checkCount, false_or,
    not_exists, not_and]
  intro _ _
  split
  · exact several
  · exact single

theorem Search.not_unwritable_ofTerm? {pattern : String} (writable : Calendar.isWritable pattern)
    (term : ResolvedTerm) (operator : Operator) :
    ¬ Unwritable (Search.Query.ofTerm? pattern term operator) := by
  have indexed : ∀ value, ¬ Unwritable (Value.indexed pattern term.field term.type value) := by
    intro value h
    simp [Value.unwritable_indexed_iff, writable] at h
  have range : ¬ Unwritable (Range.ofTerm pattern term operator) := by
    simp only [Range.ofTerm]
    split
    · simp
    · simp only [unwritable_bind, ResolvedTerm.not_unwritable_singleValue, indexed, false_or,
        not_exists, not_and]
      intro value _ bound _
      split <;> simp
  have tokens : ∀ value, ¬ Unwritable (matchTokens pattern term value) := by
    intro value
    simp only [matchTokens]
    split
    · simp
    · split <;> simp [indexed]
  simp only [Query.ofTerm?, unwritable_bind, ResolvedTerm.not_unwritable_checkCount, false_or,
    not_exists, not_and]
  intro _ _
  split
  · simp [range]
  · intro h
    rw [unwritable_bind] at h
    obtain h | ⟨found, -, h⟩ := h
    · obtain ⟨value, -, h⟩ := unwritable_mapM h
      exact tokens value h
    · exact unwritable_pure _ h

theorem FamilyQuery.not_unwritable_ofTerm? {settings : Settings}
    (writable : settings.dialect = .search → Calendar.isWritable settings.datePattern)
    (term : ResolvedTerm) (operator : Operator) :
    ¬ Unwritable (FamilyQuery.ofTerm? settings term operator) := by
  cases h : settings.dialect with
  | jpql | sql => simp [FamilyQuery.ofTerm?, h, Dialect.family, Relational.not_unwritable_ofTerm]
  | search =>
      simp [FamilyQuery.ofTerm?, h, Dialect.family, Search.not_unwritable_ofTerm? (writable h)]

theorem Level.add_refusal_ne (level : Level) (conjunction : Conjunction)
    (query : Option FamilyQuery) (operator : Operator) (pattern : String) :
    (level.add conjunction query operator).refusal ≠ some (.unwritableDate pattern) := by
  obtain ⟨-, eq⟩ | ⟨-, -, eq⟩ | ⟨q, clauses, -, -, -, eq⟩ | ⟨q, -, -, -, eq⟩ :=
    level.add_cases conjunction query operator <;> simp [eq]

namespace Pass

theorem addClause_refusal_ne (pass : Pass) (conjunction : Conjunction)
    (query : Option FamilyQuery) (operator : Operator) (pattern : String) :
    (pass.addClause conjunction query operator).refusal ≠ some (.unwritableDate pattern) :=
  pass.current.add_refusal_ne conjunction query operator pattern

theorem addTerm_refusal_ne {pass : Pass} {resolver : Resolver} (answers : resolver.Answers)
    (writable : pass.settings.dialect = .search →
      Calendar.isWritable pass.settings.datePattern)
    (conjunction : Conjunction) (term : Term) (pattern : String) :
    (pass.addTerm resolver conjunction term).refusal ≠ some (.unwritableDate pattern) := by
  obtain ⟨error, eq, cause⟩ | ⟨query, -, -, eq⟩ := pass.addTerm_cases resolver conjunction term
  · intro refused
    rw [eq] at refused
    cases Option.some.inj refused
    obtain misplaced | failed := cause
    · cases Level.refusal?_eq_some misplaced
    · have unwritable : Unwritable (pass.compileTerm resolver term) := ⟨pattern, failed⟩
      rw [compileTerm, unwritable_bind] at unwritable
      obtain h | ⟨resolved, -, h⟩ := unwritable
      · exact answers term h
      · exact FamilyQuery.not_unwritable_ofTerm? writable resolved term.operator h
  · rw [eq]
    exact pass.addClause_refusal_ne conjunction query term.operator pattern

theorem step_refusal_ne {pass : Pass} {resolver : Resolver} (answers : resolver.Answers)
    (writable : pass.settings.dialect = .search →
      Calendar.isWritable pass.settings.datePattern)
    (step : Step) (pattern : String) :
    (pass.step resolver step).refusal ≠ some (.unwritableDate pattern) := by
  cases step with
  | addTerm conjunction term => exact addTerm_refusal_ne answers writable conjunction term pattern
  | addClause conjunction query operator =>
      exact pass.addClause_refusal_ne conjunction query operator pattern
  | openGroup conjunction =>
      cases refused : pass.current.refusal? conjunction with
      | some error =>
          cases Level.refusal?_eq_some refused
          simp [Pass.step, openGroup, refused]
      | none => simp [Pass.step, openGroup, refused]
  | closeGroup =>
      simp only [Pass.step, closeGroup]
      split
      · simp
      · exact addClause_refusal_ne _ _ _ _ pattern
  | setSort _ | setLimit _ | setStartIndex _ | setPreamble _ => simp [Pass.step]

theorem not_unwritable_finish (pass : Pass) : ¬ Unwritable pass.finish := by
  simp only [finish]
  split
  · simp
  · split <;> simp

def dateFields : Resolver := fun term =>
  .ok ⟨term.field, term.values, ⟨term.field, .date, false, false⟩⟩

theorem dateFields_answers : dateFields.Answers := fun _ => unwritable_ok _

def beforeNewYear : Term := ⟨"startDate", .less, ["2024-01-01"]⟩

theorem isTemporal_beforeNewYear : Value.IsTemporal "startDate" .date "2024-01-01" :=
  .inl ⟨rfl, _, rfl⟩

theorem unwritable_compileTerm {settings : Settings} (search : settings.dialect = .search)
    (unwritable : Calendar.isWritable settings.datePattern = false) :
    Unwritable ((Pass.start settings).compileTerm dateFields beforeNewYear) := by
  have bound := (Value.unwritable_indexed_iff settings.datePattern "startDate" .date
    "2024-01-01").mpr ⟨unwritable, isTemporal_beforeNewYear⟩
  have range : Unwritable (Search.Range.ofTerm settings.datePattern
      ⟨"startDate", ["2024-01-01"], ⟨"startDate", .date, false, false⟩⟩ .less) :=
    (unwritable_bind _ _).mpr (.inr ⟨_, rfl, (unwritable_bind _ _).mpr (.inl bound)⟩)
  have query : Unwritable (Search.Query.ofTerm? settings.datePattern
      ⟨"startDate", ["2024-01-01"], ⟨"startDate", .date, false, false⟩⟩ .less) :=
    (unwritable_bind _ _).mpr (.inr ⟨(), rfl, (unwritable_bind _ _).mpr (.inl range)⟩)
  refine (unwritable_bind _ _).mpr (.inr ⟨_, rfl, ?_⟩)
  simpa [FamilyQuery.ofTerm?, start, search, Dialect.family, beforeNewYear] using query

end Pass

theorem Settings.read?_isSome_of_check {settings : Settings} (checked : settings.check = .ok ()) :
    (Calendar.Pattern.read? settings.datePattern.toList).isSome := by
  cases read : Calendar.Pattern.read? settings.datePattern.toList with
  | some items => rfl
  | none =>
      simp only [Settings.check, read, Option.isNone_none, if_true] at checked
      split at checked <;> cases checked

/-- Settings that pass their check lead to the failure exactly when they are for a search and their
pattern asks for the time zone; then a term with a date is enough for it. A value fails in this way
exactly when it is a date that such a pattern should write. Finishing a pass never fails so. -/
theorem Settings.unwritable_iff_namesZone {settings : Settings}
    (checked : settings.check = .ok ()) :
    ((∃ pass resolver step pattern, Pass.Reached settings pass ∧ resolver.Answers ∧
        (pass.step resolver step).refusal = some (.unwritableDate pattern)) ↔
      settings.dialect = .search ∧ Calendar.namesZone settings.datePattern) ∧
    (∀ field type value, Unwritable (Value.indexed settings.datePattern field type value) ↔
      Calendar.namesZone settings.datePattern ∧ Value.IsTemporal field type value) ∧
    ∀ pass : Pass, ¬ Unwritable pass.finish := by
  have zone : Calendar.isWritable settings.datePattern = !Calendar.namesZone settings.datePattern :=
    Calendar.isWritable_eq_not_namesZone (Settings.read?_isSome_of_check checked)
  refine ⟨⟨?_, ?_⟩, ?_, Pass.not_unwritable_finish⟩
  · rintro ⟨pass, resolver, step, pattern, reached, answers, refused⟩
    have kept := reached.settings_eq
    -- If the pattern wrote dates, or none were to be written, the step could not have failed.
    by_cases fault : settings.dialect = .search ∧ Calendar.namesZone settings.datePattern
    · exact fault
    · refine absurd refused (Pass.step_refusal_ne answers ?_ step pattern)
      rw [kept]
      intro search
      simp_all
  · rintro ⟨search, named⟩
    obtain ⟨pattern, failed⟩ := Pass.unwritable_compileTerm search (by simp [zone, named])
    refine ⟨_, Pass.dateFields, .addTerm .none Pass.beforeNewYear, pattern, .start,
      Pass.dateFields_answers, ?_⟩
    have unseen : (Pass.start settings).current.refusal? .none = none :=
      (Level.refusal?_eq_none_iff _ _).mpr fun _ => rfl
    simp [Pass.step, Pass.addTerm, unseen, failed]
  · intro field type value
    rw [Value.unwritable_indexed_iff, zone]
    simp

def zonedPattern : String := "%Y-%m-%dT%H:%M:%S%z"

theorem Settings.unwritable_iff_namesZone_zoned :
    Settings.check { datePattern := zonedPattern } = .ok () ∧
      (∃ pass resolver step pattern, Pass.Reached { datePattern := zonedPattern } pass ∧
        resolver.Answers ∧ (pass.step resolver step).refusal = some (.unwritableDate pattern)) ∧
      ¬ Unwritable (Value.indexed defaultDatePattern "startDate" .date "2024-01-01") := by
  have zoned : Settings.check { datePattern := zonedPattern } = .ok () := rfl
  have plain : Settings.check {} = .ok () := rfl
  refine ⟨zoned, (Settings.unwritable_iff_namesZone zoned).1.mpr ⟨rfl, rfl⟩, ?_⟩
  intro failed
  have named := (((Settings.unwritable_iff_namesZone plain).2.1 _ _ _).mp failed).1
  exact absurd named (by decide)

/-- Settings pass their check and the first date cannot be written. -/
theorem Settings.check_admits_zone :
    Settings.check { datePattern := zonedPattern } = .ok () ∧
      ((Pass.start { datePattern := zonedPattern }).step Pass.dateFields
        (.addTerm .none Pass.beforeNewYear)).refusal = some (.unwritableDate zonedPattern) :=
  ⟨rfl, rfl⟩

end FieldQuery
