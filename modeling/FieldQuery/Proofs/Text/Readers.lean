import FieldQuery.Text.Reading
import Mathlib.Data.List.Basic

/-!
Readers and what it means that one undoes a printer. A reader takes a text when it finds the value
in front of anything that may follow, and hands back what follows untouched. Series of items, which
are told apart by what stands between them, are read until the next item fails to begin.
-/

namespace FieldQuery
namespace Text

abbrev Reader (α : Type) := List Char → Option (α × List Char)

/-- Wherever something admissible follows the text, the reader finds the value and stops there. -/
def Reads {α : Type} (reader : Reader α) (admissible : List Char → Prop) (text : List Char)
    (value : α) : Prop :=
  ∀ rest, admissible rest → reader (text ++ rest) = some (value, rest)

@[simp] theorem expect_cons (c : Char) (rest : List Char) : expect c (c :: rest) = some rest := by
  simp [expect]

theorem eq_of_complete {α : Type} {found : α × List Char} {a : α}
    (whole : complete found = some a) : found = (a, []) := by
  obtain ⟨b, rest⟩ := found
  cases rest with
  | nil => rw [Option.some.inj whole]
  | cons c rest => cases whole

@[simp] theorem isPrefixOf?_append (mark rest : List Char) :
    mark.isPrefixOf? (mark ++ rest) = some rest :=
  List.isPrefixOf?_eq_some_iff_append_eq.mpr rfl

theorem isPrefixOf?_cons_of_ne {a b : Char} (other : a ≠ b) (mark cs : List Char) :
    (a :: mark).isPrefixOf? (b :: cs) = none := by
  simp [List.isPrefixOf?, other]

/-- The rest does not go on with a character of the class. -/
def Stops (p : Char → Bool) (rest : List Char) : Prop := ∀ c ∈ rest.head?, p c = false

/-- The end of the text or a closing parenthesis. -/
def Closes (rest : List Char) : Prop := rest = [] ∨ ∃ more, rest = ')' :: more

theorem stops_cons {p : Char → Bool} {c : Char} (other : p c = false) (rest : List Char) :
    Stops p (c :: rest) := by
  rintro d ⟨⟩
  exact other

theorem stops_append {p : Char → Bool} {cs : List Char} (nonempty : cs ≠ [])
    (none : ∀ c ∈ cs, p c = false) (rest : List Char) : Stops p (cs ++ rest) := by
  cases cs with
  | nil => exact absurd rfl nonempty
  | cons c cs => exact stops_cons (none c (by simp)) (cs ++ rest)

theorem stops_of_none {p : Char → Bool} {cs : List Char} (none : ∀ c ∈ cs, p c = false) :
    Stops p cs :=
  fun c first => none c (List.mem_of_mem_head? first)

theorem Stops.append {p : Char → Bool} {cs rest : List Char} (front : Stops p cs)
    (back : Stops p rest) : Stops p (cs ++ rest) := by
  cases cs with
  | nil => exact back
  | cons c cs => exact front

theorem stops_dropWhile (p : Char → Bool) (cs : List Char) : Stops p (cs.dropWhile p) := by
  intro c first
  have head := List.head?_dropWhile_not p cs
  rw [Option.mem_def.mp first] at head
  exact head

theorem takeWhile_of_stops {p : Char → Bool} {run rest : List Char} (all : ∀ c ∈ run, p c)
    (stops : Stops p rest) : (run ++ rest).takeWhile p = run := by
  rw [List.takeWhile_append_of_pos all]
  cases rest with
  | nil => simp
  | cons c rest => simp [stops c rfl]

theorem dropWhile_of_stops {p : Char → Bool} {run rest : List Char} (all : ∀ c ∈ run, p c)
    (stops : Stops p rest) : (run ++ rest).dropWhile p = rest := by
  rw [List.dropWhile_append_of_pos all]
  cases rest with
  | nil => simp
  | cons c rest => simp [stops c rfl]

section Names

def isNameChar (c : Char) : Bool := c.isAlphanum || c == '_' || c == '.'

/-- Letters, digits, underscores and points, and at least one of them. -/
def isName (name : String) : Bool := !name.toList.isEmpty && name.toList.all isNameChar

def readName (cs : List Char) : Option (String × List Char) :=
  match cs.takeWhile isNameChar with
  | [] => none
  | name => some (String.ofList name, cs.dropWhile isNameChar)

theorem readName_reads {name : String} (named : isName name) :
    Reads readName (Stops isNameChar) name.toList name := by
  intro rest stops
  simp only [isName, Bool.and_eq_true, Bool.not_eq_true', List.isEmpty_eq_false_iff,
    List.all_eq_true] at named
  simp only [readName, takeWhile_of_stops named.2 stops, dropWhile_of_stops named.2 stops]
  cases h : name.toList with
  | nil => exact absurd h named.1
  | cons c cs => simp [← h]

theorem isName_head {name : String} (named : isName name) :
    ∃ c cs, name.toList = c :: cs ∧ isNameChar c := by
  cases h : name.toList with
  | nil => simp [isName, h] at named
  | cons c cs =>
      simp only [isName, h, List.all_cons, Bool.and_eq_true] at named
      exact ⟨c, cs, rfl, named.2.1⟩

end Names

section Series

variable {α β : Type}

/-- Reads items until none follows; at most `bound` of them. -/
def readMany (reader : Reader α) : Nat → List Char → List α × List Char
  | 0, cs => ([], cs)
  | bound + 1, cs =>
    match reader cs with
    | none => ([], cs)
    | some (a, rest) =>
      let more := readMany reader bound rest
      (a :: more.1, more.2)

/-- A first item and items that come with what joins them to the item before, or nothing. -/
def readSeries (first next : Reader α) (cs : List Char) : List α × List Char :=
  match first cs with
  | none => ([], cs)
  | some (a, rest) =>
    let more := readMany next rest.length rest
    (a :: more.1, more.2)

variable {reader first next : Reader α} {admissible : List Char → Prop} {rest : List Char}
  {write : β → List Char} {value : β → α}

/-- What follows an item is the next one, or the end of the series. -/
theorem admissible_flatMap {items : List β}
    (follows : ∀ item ∈ items, ∀ rest, admissible (write item ++ rest))
    (ends : admissible rest) : admissible (items.flatMap write ++ rest) := by
  cases items with
  | nil => exact ends
  | cons item items =>
      rw [List.flatMap_cons, List.append_assoc]
      exact follows item (by simp) _

theorem readMany_flatMap {items : List β}
    (each : ∀ item ∈ items, Reads reader admissible (write item) (value item))
    (follows : ∀ item ∈ items, ∀ rest, admissible (write item ++ rest))
    (ends : admissible rest) (stops : reader rest = none) {bound : Nat}
    (enough : items.length ≤ bound) :
    readMany reader bound (items.flatMap write ++ rest) = (items.map value, rest) := by
  induction items generalizing bound with
  | nil => cases bound <;> simp [readMany, stops]
  | cons item items ih =>
      cases bound with
      | zero => simp at enough
      | succ bound =>
          have others : ∀ other ∈ items, ∀ rest, admissible (write other ++ rest) :=
            fun other mem => follows other (by simp [mem])
          have head := each item (by simp) _ (admissible_flatMap others ends)
          have tail := ih (fun other mem => each other (by simp [mem])) others
            (Nat.le_of_succ_le_succ enough)
          rw [List.flatMap_cons, List.append_assoc]
          simp [readMany, head, tail]

theorem length_le_length_flatMap {items : List β} (some : ∀ item ∈ items, write item ≠ []) :
    items.length ≤ (items.flatMap write).length := by
  induction items with
  | nil => simp
  | cons item items ih =>
      have head : 0 < (write item).length := List.length_pos_of_ne_nil (some item (by simp))
      have tail := ih fun other mem => some other (by simp [mem])
      simp only [List.flatMap_cons, List.length_append, List.length_cons]
      omega

theorem length_le_length_flatMap_of_mem {items : List β} {item : β} (mem : item ∈ items)
    (write : β → List Char) : (write item).length ≤ (items.flatMap write).length := by
  rw [List.flatMap_def]
  exact (List.sublist_flatten_of_mem (List.mem_map_of_mem mem)).length_le

theorem readSeries_nil (stops : first rest = none) : readSeries first next rest = ([], rest) := by
  simp [readSeries, stops]

theorem readSeries_cons {text : List Char} {a : α} {items : List β}
    (head : Reads first admissible text a)
    (each : ∀ item ∈ items, Reads next admissible (write item) (value item))
    (some : ∀ item ∈ items, write item ≠ [])
    (follows : ∀ item ∈ items, ∀ rest, admissible (write item ++ rest))
    (ends : admissible rest) (stops : next rest = none) :
    readSeries first next (text ++ items.flatMap write ++ rest) =
      (a :: items.map value, rest) := by
  have enough : items.length ≤ (items.flatMap write ++ rest).length := by
    have := length_le_length_flatMap some
    rw [List.length_append]
    omega
  rw [List.append_assoc]
  simp only [readSeries, head _ (admissible_flatMap follows ends),
    readMany_flatMap each follows ends stops enough]

end Series

theorem intercalate_cons_eq_flatMap {α : Type} (separator first : List α)
    (others : List (List α)) :
    separator.intercalate (first :: others) =
      first ++ others.flatMap fun other => separator ++ other := by
  induction others generalizing first with
  | nil => simp
  | cons other others ih => simp [List.intercalate_cons_cons, ih, List.append_assoc]

theorem mem_of_mem_intercalate {α : Type} {separator : List α} {parts : List (List α)} {a : α}
    (mem : a ∈ separator.intercalate parts) : a ∈ separator ∨ ∃ part ∈ parts, a ∈ part := by
  cases parts with
  | nil => cases mem
  | cons first others =>
      rw [intercalate_cons_eq_flatMap, List.mem_append, List.mem_flatMap] at mem
      obtain own | ⟨other, among, inside⟩ := mem
      · exact .inr ⟨first, List.mem_cons_self .., own⟩
      · obtain between | own := List.mem_append.mp inside
        · exact .inl between
        · exact .inr ⟨other, List.mem_cons_of_mem _ among, own⟩

theorem nil_intercalate {α : Type} (parts : List (List α)) :
    [].intercalate parts = parts.flatten := by
  cases parts with
  | nil => rfl
  | cons first others => simp [intercalate_cons_eq_flatMap, List.flatMap_def]

theorem flatMap_intercalate {α β : Type} (f : α → List β) (separator : List α)
    (parts : List (List α)) :
    (separator.intercalate parts).flatMap f =
      (separator.flatMap f).intercalate (parts.map (List.flatMap f)) := by
  cases parts with
  | nil => rfl
  | cons first others =>
      rw [List.map_cons, intercalate_cons_eq_flatMap, intercalate_cons_eq_flatMap]
      simp [List.flatMap_append, List.flatMap_assoc, List.flatMap_map]

theorem length_le_length_intercalate (separator : List Char) {part : List Char}
    {parts : List (List Char)} (mem : part ∈ parts) :
    part.length ≤ (separator.intercalate parts).length := by
  cases parts with
  | nil => cases mem
  | cons first others =>
      rw [intercalate_cons_eq_flatMap, List.length_append]
      obtain rfl | mem := List.mem_cons.mp mem
      · omega
      · have inside := length_le_length_flatMap_of_mem mem (separator ++ ·)
        rw [List.length_append] at inside
        omega

/-- Where reading a text finds what it shows of a value, and nothing else of the value matters for
the text, two values have the same text exactly when it shows the same of both. -/
theorem text_eq_iff {α : Type} (text : α → String) (shown : α → α) {read? : String → Option α}
    (neutral : ∀ a, text (shown a) = text a) {a b : α} (left : read? (text a) = some (shown a))
    (right : read? (text b) = some (shown b)) : text a = text b ↔ shown a = shown b := by
  constructor
  · intro same
    rw [same, right] at left
    exact (Option.some.inj left).symm
  · intro same
    rw [← neutral a, same, neutral b]

end Text
end FieldQuery
