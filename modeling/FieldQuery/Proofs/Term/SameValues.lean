import FieldQuery.Level
import FieldQuery.Proofs.Calendar.Writable
import Mathlib.Data.List.Forall2

/-!
A term is compiled by two builders that share no more than the reading of a single value: one makes
literals of the values and one makes tokens, and each counts the values in its own way. Still they
take the same values and refuse the others with the same error. Both read a value by the type of the
field, so that a literal and a token come from the same reading; several values are read from left
to right, so that the first one that cannot be read decides.

Truth values and analyzed text are the exceptions, as a search index compares them in another form,
and so is a term without values, which a search passes over.
-/

namespace FieldQuery

section Results

variable {α β γ δ ε : Type}

/-- Both results are the same error, or both are values that are related. -/
inductive Alike (related : α → β → Prop) : Except ε α → Except ε β → Prop
  | failed (error : ε) : Alike related (.error error) (.error error)
  | done {a : α} {b : β} (same : related a b) : Alike related (.ok a) (.ok b)

theorem alike_refl (x : Except ε α) : Alike Eq x x := by
  cases x with
  | error error => exact .failed error
  | ok a => exact .done rfl

theorem Alike.bind {related : α → β → Prop} {next : γ → δ → Prop} {x : Except ε α}
    {y : Except ε β} {f : α → Except ε γ} {g : β → Except ε δ} (alike : Alike related x y)
    (later : ∀ a b, related a b → Alike next (f a) (g b)) : Alike next (x >>= f) (y >>= g) := by
  cases alike with
  | failed error => exact .failed error
  | done same => exact later _ _ same

/-- Two passes over one list agree if they agree on every member: on both sides there is one result
for each of them, and the results are related in their order. -/
theorem Alike.mapM {related : β → γ → Prop} {f : α → Except ε β} {g : α → Except ε γ}
    (values : List α) (each : ∀ value, Alike related (f value) (g value)) :
    Alike (fun bs cs => bs.length = values.length ∧ List.Forall₂ related bs cs)
      (values.mapM f) (values.mapM g) := by
  induction values with
  | nil => exact .done ⟨rfl, .nil⟩
  | cons value values ih =>
      rw [List.mapM_cons, List.mapM_cons]
      apply (each value).bind
      intro b c same
      apply ih.bind
      rintro bs cs ⟨length, others⟩
      exact .done ⟨congrArg (· + 1) length, .cons same others⟩

/-- One computation behind both results, which is only wrapped up differently. -/
theorem alike_map_bind {related : β → γ → Prop} (x : Except ε α) {f : α → β}
    {g : α → Except ε γ} (each : ∀ a, ∃ c, g a = .ok c ∧ related (f a) c) :
    Alike related (x.map f) (x >>= g) := by
  cases x with
  | error error => exact .failed error
  | ok a =>
      obtain ⟨c, eq, same⟩ := each a
      simp only [Except.map, Bind.bind, Except.bind, eq]
      exact .done same

theorem alike_map {related : β → α → Prop} (x : Except ε α) {f : α → β}
    (each : ∀ a, related (f a) a) : Alike related (x.map f) x := by
  cases x with
  | error error => exact .failed error
  | ok a => exact .done (each a)

theorem eq_error_of_bind_pure {x : Except ε α} {f : α → β} {error : ε}
    (failed : (x >>= fun a => pure (f a)) = .error error) : x = .error error := by
  cases x with
  | error own => exact congrArg Except.error (Except.error.inj failed)
  | ok a => cases failed

/-- A failure on the way through a list is that of the first value that fails. -/
theorem mapM_eq_error {f : α → Except ε β} {values : List α} {error : ε}
    (failed : values.mapM f = .error error) :
    ∃ before value after, values = before ++ value :: after ∧
      (∀ v ∈ before, ∃ b, f v = .ok b) ∧ f value = .error error := by
  induction values with
  | nil => cases failed
  | cons value values ih =>
      rw [List.mapM_cons] at failed
      cases first : f value with
      | error own =>
          rw [first] at failed
          cases failed
          exact ⟨[], value, values, rfl, by simp, first⟩
      | ok b =>
          rw [first] at failed
          cases rest : values.mapM f with
          | error later =>
              rw [rest] at failed
              cases failed
              obtain ⟨before, bad, after, rfl, good, own⟩ := ih rest
              refine ⟨value :: before, bad, after, rfl, ?_, own⟩
              exact List.forall_mem_cons.mpr ⟨⟨b, first⟩, good⟩
          | ok bs =>
              rw [rest] at failed
              cases failed

end Results

namespace Relational.Literal

/-- The token by which a search index knows the literal; a truth value has none. -/
def indexed? (pattern : String) : Literal → Option String
  | .string value => some value
  | .number digits => some digits
  | .boolean _ => none
  | .date d => d.atMidnight.format? pattern
  | .moment m => m.format? pattern

/-- The literal and the token stand for the same value. -/
def Spells (pattern : String) (literal : Literal) (token : String) : Prop :=
  literal.indexed? pattern = some token

end Relational.Literal

section Values

open Relational (Literal)
open Relational.Literal (Spells)

variable {pattern : String}

theorem exists_formatted (writable : Calendar.isWritable pattern) (m : Calendar.Moment) :
    ∃ text, Value.formatted pattern m = .ok text ∧ m.format? pattern = some text := by
  rw [← Calendar.format?_isSome m] at writable
  obtain ⟨text, written⟩ := Option.isSome_iff_exists.mp writable
  exact ⟨text, by simp only [Value.formatted, written], written⟩

theorem alike_indexed (writable : Calendar.isWritable pattern) (field : String) {type : FieldType}
    (ordered : type.isOrdered) (value : String) :
    Alike (Spells pattern) (Literal.ofValue field type value)
      (Value.indexed pattern field type value) := by
  cases type with
  | date => exact alike_map_bind _ fun d => exists_formatted writable d.atMidnight
  | dateTime => exact alike_map_bind _ fun m => exists_formatted writable m
  | integer | float | decimal =>
      exact alike_map (Value.number field _ value) fun digits => rfl
  | string | text | enum | boolean => cases ordered

/-- Outside analyzed fields every value has a single token. -/
theorem alike_matchTokens (writable : Calendar.isWritable pattern) {term : ResolvedTerm}
    (unanalyzed : term.descriptor.analyzed = false) (compared : term.type ≠ .boolean)
    (value : String) :
    Alike (fun literal tokens => ∃ token, tokens = [token] ∧ Spells pattern literal token)
      (Literal.ofValue term.field term.type value) (Search.matchTokens pattern term value) := by
  by_cases ordered : term.type.isOrdered
  · have reading := alike_indexed writable term.field ordered value
    simp only [Search.matchTokens, unanalyzed, ordered, if_true]
    rw [← bind_pure (Literal.ofValue term.field term.type value)]
    apply reading.bind
    intro literal token spelled
    exact .done ⟨token, rfl, spelled⟩
  · simp only [Search.matchTokens, unanalyzed, ordered]
    cases kind : term.type with
    | string | text | enum => exact .done ⟨value, rfl, rfl⟩
    | boolean => exact absurd kind compared
    | integer | float | decimal | date | dateTime =>
        rw [kind] at ordered
        exact absurd rfl ordered

end Values

section Builders

open Relational (Literal)
open Relational.Literal (Spells)

variable {pattern : String} {term : ResolvedTerm} {operator : Operator}

/-- The same equality or inequality for both families: a literal or a list of them on the one side,
and a phrase of one token for each on the other. -/
inductive Matched (pattern field : String) (operator : Operator) :
    Relational.Query → Option Search.Query → Prop
  | single {literal : Literal} {token : String} (spelled : Spells pattern literal token) :
      Matched pattern field operator (.comparison field operator literal)
        (some (.phrase field [token]))
  | several {literals : List Literal} {tokens : List String} (many : 1 < literals.length)
      (spelled : List.Forall₂ (Spells pattern) literals tokens) :
      Matched pattern field operator (.inList field (operator == .notEqual) literals)
        (some (.anyOf (tokens.map fun token => .phrase field [token])))

/-- The same ordering for both families: a literal, and a range with one bound. -/
inductive Bounded (pattern field : String) (operator : Operator) :
    Relational.Query → Option Search.Query → Prop
  | above {literal : Literal} {token : String} (spelled : Spells pattern literal token)
      (upper : Search.boundsAbove operator = true) :
      Bounded pattern field operator (.comparison field operator literal)
        (some (.range ⟨field, none, some token, operator.isInclusive⟩))
  | below {literal : Literal} {token : String} (spelled : Spells pattern literal token)
      (lower : Search.boundsAbove operator = false) :
      Bounded pattern field operator (.comparison field operator literal)
        (some (.range ⟨field, some token, none, operator.isInclusive⟩))

/-- Single tokens are never passed over. -/
theorem matchAny?_singles (field : String) (tokens : List String) :
    Search.matchAny? field (tokens.map fun token => [token]) =
      match tokens with
      | [] => none
      | [token] => some (.phrase field [token])
      | tokens => some (.anyOf (tokens.map fun token => .phrase field [token])) := by
  have kept : (tokens.map fun token => [token]).filter (fun ts => !ts.isEmpty) =
      tokens.map fun token => [token] := by
    apply List.filter_eq_self.mpr
    intro ts mem
    obtain ⟨token, -, rfl⟩ := List.mem_map.mp mem
    rfl
  rw [Search.matchAny?, kept, List.map_map]
  match tokens with
  | [] => rfl
  | [token] => rfl
  | first :: second :: tokens => rfl

theorem exists_tokens {literals : List Literal} {found : List (List String)}
    (each : List.Forall₂
      (fun literal tokens => ∃ token, tokens = [token] ∧ Spells pattern literal token)
      literals found) :
    ∃ tokens : List String, found = tokens.map (fun token => [token]) ∧
      List.Forall₂ (Spells pattern) literals tokens := by
  induction each with
  | nil => exact ⟨[], rfl, .nil⟩
  | cons first _ ih =>
      obtain ⟨token, rfl, spelled⟩ := first
      obtain ⟨tokens, rfl, others⟩ := ih
      exact ⟨token :: tokens, rfl, .cons spelled others⟩

theorem alike_single (writable : Calendar.isWritable pattern)
    (unanalyzed : term.descriptor.analyzed = false) (compared : term.type ≠ .boolean)
    {value : String} (one : term.values = [value]) :
    Alike (Matched pattern term.field operator) (Relational.Query.ofSingleValue term operator)
      (term.values.mapM (Search.matchTokens pattern term) >>= fun found =>
        pure (Search.matchAny? term.field found)) := by
  have reading := alike_matchTokens writable unanalyzed compared value
  have value? : term.singleValue = .ok value := by simp only [ResolvedTerm.singleValue, one]
  simp only [Relational.Query.ofSingleValue, value?, one, List.mapM_cons, List.mapM_nil, bind_assoc,
    pure_bind]
  apply reading.bind
  rintro literal _ ⟨token, rfl, spelled⟩
  exact .done (.single spelled)

theorem alike_several (writable : Calendar.isWritable pattern)
    (unanalyzed : term.descriptor.analyzed = false) (compared : term.type ≠ .boolean)
    (equality : operator.isOrdering = false) (many : 1 < term.values.length) :
    Alike (Matched pattern term.field operator) (Relational.Query.ofValues term operator)
      (term.values.mapM (Search.matchTokens pattern term) >>= fun found =>
        pure (Search.matchAny? term.field found)) := by
  have reading := Alike.mapM term.values (alike_matchTokens writable unanalyzed compared)
  simp only [Relational.Query.ofValues, equality]
  apply reading.bind
  rintro literals found ⟨length, each⟩
  obtain ⟨tokens, rfl, spelled⟩ := exists_tokens each
  have more : 1 < tokens.length := by rw [← spelled.length_eq, length]; exact many
  have shape : Search.matchAny? term.field (tokens.map fun token => [token]) =
      some (.anyOf (tokens.map fun token => .phrase term.field [token])) := by
    rw [matchAny?_singles]
    match tokens with
    | [] | [_] => simp at more
    | first :: second :: tokens => rfl
  rw [shape]
  exact .done (.several (by rw [length]; exact many) spelled)

theorem exists_single (some : term.values ≠ []) (few : ¬ 1 < term.values.length) :
    ∃ value, term.values = [value] := by
  apply List.length_eq_one_iff.mp
  have := List.length_pos_of_ne_nil some
  omega

theorem alike_of_equality (writable : Calendar.isWritable pattern)
    (unanalyzed : term.descriptor.analyzed = false) (compared : term.type ≠ .boolean)
    (equality : operator.isOrdering = false) (some : term.values ≠ []) :
    Alike (Matched pattern term.field operator) (Relational.Query.ofTerm term operator)
      (Search.Query.ofTerm? pattern term operator) := by
  apply (alike_refl term.checkCount).bind
  intro _ _ _
  have unordered : ¬ operator.isOrdering = true := by simp [equality]
  rw [if_neg unordered]
  by_cases many : 1 < term.values.length
  · rw [if_pos many]
    exact alike_several writable unanalyzed compared equality many
  · obtain ⟨value, one⟩ := exists_single some many
    rw [if_neg many]
    exact alike_single writable unanalyzed compared one

theorem alike_of_ordering (writable : Calendar.isWritable pattern)
    (ordering : operator.isOrdering = true) (ordered : term.type.isOrdered = true) :
    Alike (Bounded pattern term.field operator) (Relational.Query.ofTerm term operator)
      (Search.Query.ofTerm? pattern term operator) := by
  apply (alike_refl term.checkCount).bind
  intro _ _ _
  have legal : ¬ (!operator.isOrdering || !term.type.isOrdered) = true := by
    simp [ordering, ordered]
  rw [if_pos ordering, Search.Range.ofTerm, if_neg legal, bind_assoc]
  by_cases many : 1 < term.values.length
  · -- Neither builder has a use for several values here, and both say how many there are.
    have refused : term.singleValue = .error term.tooManyValues := by
      unfold ResolvedTerm.singleValue
      split
      · next one => simp [one] at many
      · next none => simp [none] at many
      · rfl
    rw [if_pos many, Relational.Query.ofValues, if_pos ordering, refused]
    exact .failed _
  · rw [if_neg many, Relational.Query.ofSingleValue]
    apply (alike_refl term.singleValue).bind
    rintro value _ rfl
    rw [bind_assoc]
    apply (alike_indexed writable term.field ordered value).bind
    intro literal token spelled
    cases side : Search.boundsAbove operator with
    | true => exact .done (.above spelled side)
    | false => exact .done (.below spelled side)

theorem checkCount_eq_error {error : Error} (failed : term.checkCount = .error error) :
    error = term.tooManyValues ∧ 1 < term.values.length ∧
      term.descriptor.multiValued = false := by
  rw [ResolvedTerm.checkCount] at failed
  split at failed
  · next many => exact ⟨(Except.error.inj failed).symm, by simpa using many⟩
  · cases failed

/-- Where a term with values fails under equality or inequality, there are more values than the
field takes, or the first value that is none of the type is to blame. -/
theorem ofTerm_eq_error (equality : operator.isOrdering = false) (some : term.values ≠ [])
    {error : Error} (failed : Relational.Query.ofTerm term operator = .error error) :
    (error = term.tooManyValues ∧ 1 < term.values.length ∧ term.descriptor.multiValued = false) ∨
    ∃ before value after, term.values = before ++ value :: after ∧
      (∀ v ∈ before, ∃ literal, Literal.ofValue term.field term.type v = .ok literal) ∧
      Literal.ofValue term.field term.type value = .error error := by
  rw [Relational.Query.ofTerm] at failed
  cases counted : term.checkCount with
  | error cause =>
      rw [counted] at failed
      cases failed
      exact .inl (checkCount_eq_error counted)
  | ok _ =>
      right
      rw [counted] at failed
      change (if 1 < term.values.length then Relational.Query.ofValues term operator
        else Relational.Query.ofSingleValue term operator) = .error error at failed
      by_cases many : 1 < term.values.length
      · rw [if_pos many, Relational.Query.ofValues, if_neg (by simp [equality])] at failed
        exact mapM_eq_error (eq_error_of_bind_pure failed)
      · obtain ⟨value, one⟩ := exists_single some many
        have value? : term.singleValue = .ok value := by simp only [ResolvedTerm.singleValue, one]
        refine ⟨[], value, [], one, by simp, ?_⟩
        rw [if_neg many, Relational.Query.ofSingleValue, value?] at failed
        exact eq_error_of_bind_pure failed

/-- The two families take the same values. Under equality and inequality, where a field that is not
analyzed and not of truth values is given some value, both builders fail with the same error or both
succeed, with a literal for each value on the one side and the token it is indexed by on the other.
Under the orderings on a field of an ordered type, analyzed or not, this is so for any values. -/
theorem builders_take_same_values {pattern : String} (writable : Calendar.isWritable pattern)
    (term : ResolvedTerm) (operator : Operator) :
    (term.descriptor.analyzed = false → term.type ≠ .boolean → operator.isOrdering = false →
      term.values ≠ [] →
      Alike (Matched pattern term.field operator) (Relational.Query.ofTerm term operator)
        (Search.Query.ofTerm? pattern term operator) ∧
      ∀ error, Relational.Query.ofTerm term operator = .error error →
        (error = term.tooManyValues ∧ 1 < term.values.length ∧
          term.descriptor.multiValued = false) ∨
        ∃ before value after, term.values = before ++ value :: after ∧
          (∀ v ∈ before, ∃ literal, Literal.ofValue term.field term.type v = .ok literal) ∧
          Literal.ofValue term.field term.type value = .error error) ∧
    (operator.isOrdering = true → term.type.isOrdered = true →
      Alike (Bounded pattern term.field operator) (Relational.Query.ofTerm term operator)
        (Search.Query.ofTerm? pattern term operator)) := by
  refine ⟨?_, alike_of_ordering writable⟩
  intro unanalyzed compared equality some
  exact ⟨alike_of_equality writable unanalyzed compared equality some,
    fun error failed => ofTerm_eq_error equality some failed⟩

/-- A field of several days. -/
def dayTerm (values : List String) : ResolvedTerm := ⟨"day", values, ⟨"day", .date, true, false⟩⟩

/-- A field of several names, which the index tokenizes. -/
def nameTerm (values : List String) : ResolvedTerm := ⟨"name", values, ⟨"name", .text, true, true⟩⟩

/-- Good values are taken by both families, of two bad ones both blame the first, and both miss a
value for an ordering. -/
theorem builders_take_same_values_days :
    Calendar.isWritable defaultDatePattern = true ∧
      Alike (Matched defaultDatePattern "day" .notEqual)
        (Relational.Query.ofTerm (dayTerm ["2024-01-31", "2024-02-01T00:00:00Z"]) .notEqual)
        (Search.Query.ofTerm? defaultDatePattern
          (dayTerm ["2024-01-31", "2024-02-01T00:00:00Z"]) .notEqual) ∧
      Relational.Query.ofTerm (dayTerm ["2024-01-31", "2024-02-30", "noon"]) .equal =
        .error (.invalidValue "day" "2024-02-30" .notDate) ∧
      Search.Query.ofTerm? defaultDatePattern
          (dayTerm ["2024-01-31", "2024-02-30", "noon"]) .equal =
        .error (.invalidValue "day" "2024-02-30" .notDate) ∧
      Alike (Bounded defaultDatePattern "day" .less) (Relational.Query.ofTerm (dayTerm []) .less)
        (Search.Query.ofTerm? defaultDatePattern (dayTerm []) .less) := by
  have writable : Calendar.isWritable defaultDatePattern = true := rfl
  refine ⟨writable, ?_, rfl, rfl, ?_⟩
  · have taken := builders_take_same_values writable
      (dayTerm ["2024-01-31", "2024-02-01T00:00:00Z"]) .notEqual
    exact (taken.1 rfl (by decide) rfl (by decide)).1
  · exact (builders_take_same_values writable (dayTerm []) .less).2 rfl rfl

end Builders

end FieldQuery
