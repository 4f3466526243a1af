import FieldQuery.Proofs.Search.Analysis

/-!
The analysis of a text goes through its words one by one and never looks beyond the word at hand. So
a text can be cut wherever no word goes on over the cut: the tokens of the whole are those of the
parts, one after the other. A separator makes such a cut on its own, how many there are is all the
same, and a stop word that stands between separators leaves no trace.
-/

namespace FieldQuery
namespace Search

/-- No word goes on from the one text to the other. -/
def Apart (before after : List Char) : Prop :=
  Text.Stops Text.isAlphanumeric before.reverse ∨ Text.Stops Text.isAlphanumeric after

section Cuts

variable {before after cs : List Char}

@[simp] theorem words_nil : words [] = [] := rfl

theorem words_cons_separator {c : Char} (separates : Text.isAlphanumeric c = false)
    (cs : List Char) : words (c :: cs) = words cs :=
  words_append_cons separates [] cs

theorem words_eq_nil (separate : ∀ c ∈ cs, Text.isAlphanumeric c = false) : words cs = [] := by
  induction cs with
  | nil => rfl
  | cons c cs ih =>
      obtain ⟨own, others⟩ := List.forall_mem_cons.mp separate
      rw [words_cons_separator own, ih others]

theorem Apart.words_append (apart : Apart before after) :
    words (before ++ after) = words before ++ words after := by
  obtain ends | begins := apart
  · obtain rfl | ⟨front, c, rfl⟩ := List.eq_nil_or_concat' before
    · rfl
    · have separates : Text.isAlphanumeric c = false := ends c (by simp)
      rw [List.append_assoc, List.singleton_append, words_append_cons separates,
        words_append_cons separates, words_nil, List.append_nil]
  · cases after with
    | nil => simp
    | cons c after =>
        have separates : Text.isAlphanumeric c = false := begins c rfl
        rw [words_append_cons separates, words_cons_separator separates]

theorem Apart.analyzeChars_append (apart : Apart before after) :
    analyzeChars (before ++ after) = analyzeChars before ++ analyzeChars after := by
  simp only [analyzeChars, apart.words_append, List.map_append, List.filter_append]

end Cuts

section Runs

/-- A word of the text that no character of words stands right before or after. -/
structure MaximalRun (cs run : List Char) : Prop where
  isWord : IsWord run
  inside : ∃ before after, cs = before ++ run ++ after ∧
    Text.Stops Text.isAlphanumeric before.reverse ∧ Text.Stops Text.isAlphanumeric after

/-- A text is a run, perhaps an empty one, that may be followed by a separator and another text. -/
theorem run_induction {motive : List Char → Prop}
    (last : ∀ run, (∀ c ∈ run, Text.isAlphanumeric c = true) → motive run)
    (next : ∀ run c after, (∀ d ∈ run, Text.isAlphanumeric d = true) →
      Text.isAlphanumeric c = false → motive after → motive (run ++ c :: after))
    (cs : List Char) : motive cs := by
  -- the run that is being passed stands before the characters that are still to come
  suffices passing : ∀ run, (∀ c ∈ run, Text.isAlphanumeric c = true) → motive (run ++ cs) from
    passing [] (by simp)
  induction cs with
  | nil =>
      intro run whole
      rw [List.append_nil]
      exact last run whole
  | cons c cs ih =>
      intro run whole
      cases kind : Text.isAlphanumeric c with
      | true =>
          have longer := ih (run ++ [c]) (by simpa [or_imp, forall_and] using ⟨whole, kind⟩)
          simpa using longer
      | false => exact next run c cs whole kind (ih [] (by simp))

variable {cs run word : List Char}

theorem isWord_and_eq_of_mem_words (whole : ∀ c ∈ run, Text.isAlphanumeric c = true)
    (mem : word ∈ words run) : IsWord run ∧ word = run := by
  have nonempty : run ≠ [] := by
    rintro rfl
    cases mem
  have isWord : IsWord run := ⟨nonempty, whole⟩
  rw [isWord.words_eq, List.mem_singleton] at mem
  exact ⟨isWord, mem⟩

theorem MaximalRun.later {c : Char} (separates : Text.isAlphanumeric c = false)
    (found : MaximalRun cs word) (run : List Char) : MaximalRun (run ++ c :: cs) word := by
  obtain ⟨before, after, rfl, ends, begins⟩ := found.inside
  refine ⟨found.isWord, run ++ c :: before, after, by simp, ?_, begins⟩
  have reversed : (run ++ c :: before).reverse = before.reverse ++ c :: run.reverse := by simp
  rw [reversed]
  exact ends.append (Text.stops_cons separates _)

theorem mem_words_iff : word ∈ words cs ↔ MaximalRun cs word := by
  constructor
  · intro mem
    induction cs using run_induction with
    | last run whole =>
        obtain ⟨isWord, rfl⟩ := isWord_and_eq_of_mem_words whole mem
        exact ⟨isWord, [], [], by simp, nofun, nofun⟩
    | next run c after whole separates ih =>
        rw [words_append_cons separates, List.mem_append] at mem
        obtain first | later := mem
        · obtain ⟨isWord, rfl⟩ := isWord_and_eq_of_mem_words whole first
          exact ⟨isWord, [], c :: after, by simp, nofun, Text.stops_cons separates after⟩
        · exact (ih later).later separates run
  · rintro ⟨isWord, before, after, rfl, ends, begins⟩
    have front : Apart before word := .inl ends
    have back : Apart (before ++ word) after := .inr begins
    rw [back.words_append, front.words_append, isWord.words_eq]
    simp

end Runs

section StopWords

/-- A stop word, in small letters or in capitals. -/
structure IsStop (word : List Char) : Prop where
  isWord : IsWord word
  listed : String.ofList (Text.lowercase word) ∈ stopWords

instance (word : List Char) : Decidable (IsStop word) :=
  decidable_of_iff (IsWord word ∧ String.ofList (Text.lowercase word) ∈ stopWords)
    ⟨fun ⟨isWord, listed⟩ => ⟨isWord, listed⟩, fun isStop => ⟨isStop.isWord, isStop.listed⟩⟩

def smallLetters : List Char := "abcdefghijklmnopqrstuvwxyz".toList

theorem smallLetters_lower :
    (smallLetters.all fun c => Text.lowercaseChar c == [c]) = true := by
  decide +kernel

theorem stopWords_small :
    (stopWords.all fun stop => stop.toList.all smallLetters.contains) = true := by
  decide +kernel

theorem isWord_of_mem_stopWords : ∀ stop ∈ stopWords, IsWord stop.toList := by
  decide +kernel

theorem lowercase_of_mem_stopWords {stop : String} (mem : stop ∈ stopWords) :
    Text.lowercase stop.toList = stop.toList := by
  have small := List.all_eq_true.mp (List.all_eq_true.mp stopWords_small stop mem)
  apply Text.lowercaseAfter_eq_self
  intro c inside
  have letter : c ∈ smallLetters := List.contains_iff_mem.mp (small c inside)
  exact eq_of_beq (List.all_eq_true.mp smallLetters_lower c letter)

theorem isStop_of_mem {stop : String} (mem : stop ∈ stopWords) : IsStop stop.toList := by
  refine ⟨isWord_of_mem_stopWords stop mem, ?_⟩
  rwa [lowercase_of_mem_stopWords mem, String.ofList_toList]

theorem analyze_eq_nil_iff_words {text : String} :
    analyze text = [] ↔
      ∀ word ∈ words text.toList, String.ofList (Text.lowercase word) ∈ stopWords := by
  simp [analyze, analyzeChars, ← isStopWord_toList]

theorem IsStop.analyze_eq_nil {stop : String} (isStop : IsStop stop.toList) :
    analyze stop = [] := by
  rw [analyze_eq_nil_iff_words, isStop.isWord.words_eq]
  simpa using isStop.listed

end StopWords

section Gaps

/-- A text of one or more separators. -/
structure IsGap (gap : String) : Prop where
  nonempty : gap ≠ ""
  separates : ∀ c ∈ gap.toList, Text.isAlphanumeric c = false

theorem isGap_iff {gap : String} :
    IsGap gap ↔ gap ≠ "" ∧ (gap.toList.all fun c => !Text.isAlphanumeric c) = true := by
  simp only [List.all_eq_true, Bool.not_eq_true']
  exact ⟨fun isGap => ⟨isGap.nonempty, isGap.separates⟩,
    fun ⟨nonempty, all⟩ => ⟨nonempty, all⟩⟩

instance (gap : String) : Decidable (IsGap gap) := decidable_of_iff _ isGap_iff.symm

theorem isGap_singleton {c : Char} (separates : Text.isAlphanumeric c = false) :
    IsGap (String.singleton c) :=
  ⟨by simp, by simpa using separates⟩

theorem analyze_append {before after : String} (apart : Apart before.toList after.toList) :
    analyze (before ++ after) = analyze before ++ analyze after := by
  simp only [analyze, String.toList_append, apart.analyzeChars_append, List.map_append]

variable {gap : String}

theorem IsGap.analyze_eq_nil (isGap : IsGap gap) : analyze gap = [] := by
  rw [analyze_eq_nil_iff_words, words_eq_nil isGap.separates]
  nofun

theorem IsGap.analyze_leading (isGap : IsGap gap) (text : String) :
    analyze (gap ++ text) = analyze text := by
  have apart : Apart gap.toList text.toList :=
    .inl (Text.stops_of_none (by simpa using isGap.separates))
  rw [analyze_append apart, isGap.analyze_eq_nil, List.nil_append]

theorem IsGap.analyze_trailing (isGap : IsGap gap) (text : String) :
    analyze (text ++ gap) = analyze text := by
  have apart : Apart text.toList gap.toList := .inr (Text.stops_of_none isGap.separates)
  rw [analyze_append apart, isGap.analyze_eq_nil, List.append_nil]

theorem IsGap.analyze_between (isGap : IsGap gap) (before after : String) :
    analyze (before ++ gap ++ after) = analyze before ++ analyze after := by
  -- the gap is counted to the text after it, where it leads and adds nothing
  have nonempty : gap.toList ≠ [] := by simpa using isGap.nonempty
  have apart : Apart before.toList (gap ++ after).toList := by
    rw [String.toList_append]
    exact .inr (Text.stops_append nonempty isGap.separates _)
  rw [String.append_assoc, analyze_append apart, isGap.analyze_leading]

theorem IsGap.analyze_around {left right : String} (leftGap : IsGap left) (rightGap : IsGap right)
    (before inner after : String) :
    analyze (before ++ left ++ inner ++ right ++ after) =
      analyze before ++ analyze inner ++ analyze after := by
  rw [rightGap.analyze_between, leftGap.analyze_between]

end Gaps

/-- A separator divides the tokens of a text into those of what stands before and after it. Hence
separators at either end add nothing, any gap between two texts is as good as any other, a stop word
between two gaps can be left out, and nothing is left of a text exactly when all its words are stop
words. -/
theorem analysis_distributes :
    (∀ (before after : String) (c : Char), Text.isAlphanumeric c = false →
      analyze (before ++ String.singleton c ++ after) = analyze before ++ analyze after) ∧
    (∀ gap text : String, IsGap gap →
      analyze (gap ++ text) = analyze text ∧ analyze (text ++ gap) = analyze text) ∧
    (∀ before gap other after : String, IsGap gap → IsGap other →
      analyze (before ++ gap ++ after) = analyze (before ++ other ++ after)) ∧
    (∀ stop ∈ stopWords, IsStop stop.toList) ∧
    (∀ before left stop right after : String, IsGap left → IsGap right → IsStop stop.toList →
      analyze (before ++ left ++ stop ++ right ++ after) =
        analyze (before ++ left ++ right ++ after)) ∧
    ∀ text : String, analyze text = [] ↔
      ∀ run, MaximalRun text.toList run → String.ofList (Text.lowercase run) ∈ stopWords := by
  refine ⟨?_, ?_, ?_, fun _ => isStop_of_mem, ?_, ?_⟩
  · intro before after c separates
    exact (isGap_singleton separates).analyze_between before after
  · intro gap text isGap
    exact ⟨isGap.analyze_leading text, isGap.analyze_trailing text⟩
  · intro before gap other after isGap otherGap
    rw [isGap.analyze_between, otherGap.analyze_between]
  · intro before left stop right after leftGap rightGap isStop
    rw [leftGap.analyze_around rightGap, isStop.analyze_eq_nil, List.append_nil,
      rightGap.analyze_between, leftGap.analyze_trailing]
  · intro text
    simp only [analyze_eq_nil_iff_words, mem_words_iff]

/-- A point is looked through for the end of a word, so the first sigma of the whole text would be
no final one. It is one here, since the words are lowercased apart. -/
theorem analysis_distributes_sigmas :
    Text.isAlphanumeric '.' = false ∧ IsGap ", " ∧ IsGap " - " ∧ IsStop "AND".toList ∧
    Text.lowercase "ΟΔΟΣ.ΟΔΟΣ".toList = "οδοσ.οδος".toList ∧
    analyze ("ΟΔΟΣ" ++ String.singleton '.' ++ "ΟΔΟΣ") = ["οδος", "οδος"] ∧
    analyze (", " ++ "ΟΔΟΣ") = ["οδος"] ∧ analyze ("ΟΔΟΣ" ++ ", ") = ["οδος"] ∧
    analyze ("ΟΔΟΣ" ++ ", " ++ "AND" ++ " - " ++ "ΟΔΟΣ") = ["οδος", "οδος"] ∧
    ∃ run, MaximalRun "AND ΟΔΟΣ".toList run ∧
      String.ofList (Text.lowercase run) ∉ stopWords := by
  obtain ⟨divided, ends, exchanged, -, dropped, empty⟩ := analysis_distributes
  have point : Text.isAlphanumeric '.' = false := by decide +kernel
  have comma : IsGap ", " := by decide +kernel
  have dash : IsGap " - " := by decide +kernel
  have stop : IsStop "AND".toList := by decide +kernel
  have street : analyze "ΟΔΟΣ" = ["οδος"] := by decide +kernel
  obtain ⟨leading, trailing⟩ := ends ", " "ΟΔΟΣ" comma
  refine ⟨point, comma, dash, stop, by decide +kernel, ?_, leading.trans street,
    trailing.trans street, ?_, ?_⟩
  · rw [divided _ _ _ point, street]
    rfl
  · rw [dropped _ _ _ _ _ comma dash stop, exchanged _ _ _ _ dash (isGap_singleton point),
      divided _ _ _ point, trailing, street]
    rfl
  · have remains : analyze "AND ΟΔΟΣ" ≠ [] := by decide +kernel
    rw [ne_eq, empty] at remains
    simpa using remains

end Search
end FieldQuery
