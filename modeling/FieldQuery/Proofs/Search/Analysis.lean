import FieldQuery.Proofs.Text.Lowercase
import FieldQuery.Proofs.Text.Readers
import FieldQuery.Search.Term

/-!
What the analysis of a text leaves: words in lower case that are no stop words. A text is cut before
the words are lowercased, and lowercasing keeps a word a word unless it holds a dotted capital I,
which brings a combining dot into the token. So this letter decides everything: exactly the texts
without it have tokens of alphanumeric characters only, and exactly for them a second analysis of
the tokens finds the same tokens again.
-/

namespace FieldQuery
namespace Search

section Pieces

variable {isSeparator : Char → Bool}

theorem exists_pieces (isSeparator : Char → Bool) (cs : List Char) :
    ∃ piece rest, pieces isSeparator cs = piece :: rest := by
  induction cs with
  | nil => exact ⟨[], [], rfl⟩
  | cons c cs ih =>
      obtain ⟨piece, rest, eq⟩ := ih
      rw [pieces, eq]
      split
      · exact ⟨_, _, rfl⟩
      · exact ⟨_, _, rfl⟩

/-- The pieces hold what is no separator, in the order of the text. -/
theorem flatten_pieces (cs : List Char) :
    (pieces isSeparator cs).flatten = cs.filter fun c => !isSeparator c := by
  induction cs with
  | nil => rfl
  | cons c cs ih =>
      obtain ⟨piece, rest, eq⟩ := exists_pieces isSeparator cs
      rw [eq] at ih
      cases separates : isSeparator c with
      | true => simpa [pieces, separates, eq] using ih
      | false => simpa [pieces, separates, eq] using ih

theorem pieces_append_cons {c : Char} (separates : isSeparator c = true)
    (before after : List Char) :
    pieces isSeparator (before ++ c :: after) =
      pieces isSeparator before ++ pieces isSeparator after := by
  induction before with
  | nil => simp [pieces, separates]
  | cons first before ih =>
      obtain ⟨piece, rest, eq⟩ := exists_pieces isSeparator before
      rw [List.cons_append, pieces, ih, pieces, eq]
      split
      · rfl
      · rfl

theorem pieces_eq_singleton {cs : List Char} (whole : ∀ c ∈ cs, isSeparator c = false) :
    pieces isSeparator cs = [cs] := by
  induction cs with
  | nil => rfl
  | cons c cs ih =>
      obtain ⟨own, others⟩ := List.forall_mem_cons.mp whole
      simp [pieces, own, ih others]

end Pieces

section Words

/-- A run of characters that words are made of. -/
structure IsWord (cs : List Char) : Prop where
  nonempty : cs ≠ []
  alphanumeric : ∀ c ∈ cs, Text.isAlphanumeric c = true

theorem isWord_iff {cs : List Char} :
    IsWord cs ↔ cs ≠ [] ∧ cs.all Text.isAlphanumeric = true := by
  rw [List.all_eq_true]
  exact ⟨fun isWord => ⟨isWord.nonempty, isWord.alphanumeric⟩,
    fun ⟨nonempty, all⟩ => ⟨nonempty, all⟩⟩

instance (cs : List Char) : Decidable (IsWord cs) := decidable_of_iff _ isWord_iff.symm

theorem flatten_words (cs : List Char) : (words cs).flatten = cs.filter Text.isAlphanumeric := by
  rw [words, List.flatten_filter_not_isEmpty, flatten_pieces]
  simp

theorem isWord_of_mem_words {cs word : List Char} (mem : word ∈ words cs) : IsWord word := by
  refine ⟨by simpa using (List.mem_filter.mp mem).2, ?_⟩
  intro c inside
  have among : c ∈ (words cs).flatten := List.mem_flatten.mpr ⟨word, mem, inside⟩
  rw [flatten_words] at among
  exact (List.mem_filter.mp among).2

/-- Whether a character of words stands in a text can be seen from its words. -/
theorem exists_word_iff {cs : List Char} {c : Char} (alphanumeric : Text.isAlphanumeric c = true) :
    (∃ word ∈ words cs, c ∈ word) ↔ c ∈ cs := by
  rw [← List.mem_flatten, flatten_words, List.mem_filter]
  exact and_iff_left alphanumeric

theorem words_append_cons {c : Char} (separates : Text.isAlphanumeric c = false)
    (before after : List Char) : words (before ++ c :: after) = words before ++ words after := by
  rw [words, pieces_append_cons (by simp [separates]), List.filter_append]
  rfl

theorem IsWord.words_eq {word : List Char} (isWord : IsWord word) : words word = [word] := by
  have whole : pieces (fun c => !Text.isAlphanumeric c) word = [word] := by
    apply pieces_eq_singleton
    intro c mem
    simp [isWord.alphanumeric c mem]
  simp [words, whole, isWord.nonempty]

theorem words_intercalate {tokens : List (List Char)} (isWord : ∀ token ∈ tokens, IsWord token) :
    words ([' '].intercalate tokens) = tokens := by
  induction tokens with
  | nil => rfl
  | cons token tokens ih =>
      obtain ⟨own, others⟩ := List.forall_mem_cons.mp isWord
      cases tokens with
      | nil => simpa using own.words_eq
      | cons next tokens =>
          rw [List.intercalate_cons_cons, List.append_assoc, List.singleton_append,
            words_append_cons (by decide +kernel), own.words_eq, ih others]
          rfl

end Words

section Tokens

variable {cs token : List Char}

theorem mem_analyzeChars :
    token ∈ analyzeChars cs ↔
      (∃ word ∈ words cs, Text.lowercase word = token) ∧ isStopWord token = false := by
  rw [analyzeChars, List.mem_filter, List.mem_map]
  simp

theorem ne_nil_of_mem_analyzeChars (mem : token ∈ analyzeChars cs) : token ≠ [] := by
  obtain ⟨⟨word, found, rfl⟩, -⟩ := mem_analyzeChars.mp mem
  exact Text.lowercase_ne_nil (isWord_of_mem_words found).nonempty

theorem lowercase_of_mem_analyzeChars (mem : token ∈ analyzeChars cs) :
    Text.lowercase token = token := by
  obtain ⟨⟨word, -, rfl⟩, -⟩ := mem_analyzeChars.mp mem
  exact Text.lowercase_lowercase word

theorem isAlphanumeric_or_dot_of_mem_token (mem : token ∈ analyzeChars cs) {c : Char}
    (inside : c ∈ token) : Text.isAlphanumeric c ∨ c = '\u0307' ∧ '\u0130' ∈ cs := by
  obtain ⟨⟨word, found, rfl⟩, -⟩ := mem_analyzeChars.mp mem
  have isWord := isWord_of_mem_words found
  obtain alphanumeric | ⟨dot, dotted⟩ :=
    Text.isAlphanumeric_or_dot_of_mem_lowercase isWord.alphanumeric inside
  · exact .inl alphanumeric
  · exact .inr ⟨dot, (exists_word_iff (by decide)).mp ⟨word, found, dotted⟩⟩

theorem dot_not_mem_of_isStopWord {word : List Char} (stop : isStopWord word = true) :
    '\u0307' ∉ word := by
  have undotted : ∀ listed ∈ stopWords, '\u0307' ∉ listed.toList := by decide
  obtain ⟨listed, mem, same⟩ := List.any_eq_true.mp stop
  rw [← eq_of_beq same]
  exact undotted listed mem

/-- A word with the dotted capital I is never dropped as a stop word, and its token has the dot. -/
theorem exists_token_with_dot (dotted : '\u0130' ∈ cs) :
    ∃ token ∈ analyzeChars cs, '\u0307' ∈ token := by
  obtain ⟨word, found, inside⟩ := (exists_word_iff (by decide)).mpr dotted
  have dot := Text.dot_mem_lowercase inside
  refine ⟨Text.lowercase word, mem_analyzeChars.mpr ⟨⟨word, found, rfl⟩, ?_⟩, dot⟩
  rw [Bool.eq_false_iff]
  exact fun stop => dot_not_mem_of_isStopWord stop dot

theorem tokens_alphanumeric_iff :
    (∀ token ∈ analyzeChars cs, ∀ c ∈ token, Text.isAlphanumeric c = true) ↔ '\u0130' ∉ cs := by
  constructor
  · intro clean dotted
    obtain ⟨token, mem, dot⟩ := exists_token_with_dot dotted
    exact absurd (clean token mem _ dot) (by decide +kernel)
  · intro undotted token mem c inside
    obtain alphanumeric | ⟨-, dotted⟩ := isAlphanumeric_or_dot_of_mem_token mem inside
    · exact alphanumeric
    · exact absurd dotted undotted

/-- Tokens are in lower case, and so is the text that they are joined to. -/
theorem dotted_not_mem_intercalate (cs : List Char) :
    '\u0130' ∉ [' '].intercalate (analyzeChars cs) := by
  intro dotted
  obtain space | ⟨token, mem, inside⟩ := Text.mem_of_mem_intercalate dotted
  · exact absurd space (by decide)
  · rw [← lowercase_of_mem_analyzeChars mem] at inside
    exact absurd (Text.lowercaseChar_of_mem_lowercase inside) (by decide)

theorem analyzeChars_intercalate_iff :
    analyzeChars ([' '].intercalate (analyzeChars cs)) = analyzeChars cs ↔ '\u0130' ∉ cs := by
  constructor
  · intro same
    -- the joined tokens are a text without the letter, so the second analysis is clean in any case
    rw [← tokens_alphanumeric_iff, ← same, tokens_alphanumeric_iff]
    exact dotted_not_mem_intercalate cs
  · intro undotted
    have clean := tokens_alphanumeric_iff.mpr undotted
    have found : words ([' '].intercalate (analyzeChars cs)) = analyzeChars cs :=
      words_intercalate fun token mem => ⟨ne_nil_of_mem_analyzeChars mem, clean token mem⟩
    have lower : (analyzeChars cs).map Text.lowercase = (analyzeChars cs).map id :=
      List.map_congr_left fun token mem => lowercase_of_mem_analyzeChars mem
    rw [analyzeChars, found, lower, List.map_id]
    apply List.filter_eq_self.mpr
    intro token mem
    simpa using (mem_analyzeChars.mp mem).2

end Tokens

section Texts

variable {text token : String}

theorem mem_analyze_iff : token ∈ analyze text ↔ token.toList ∈ analyzeChars text.toList := by
  rw [analyze, List.mem_map]
  constructor
  · rintro ⟨cs, mem, rfl⟩
    rwa [String.toList_ofList]
  · intro mem
    exact ⟨token.toList, mem, String.ofList_toList⟩

theorem isStopWord_toList : isStopWord token.toList = true ↔ token ∈ stopWords := by
  simp [isStopWord, String.toList_inj]

theorem analyze_intercalate (text : String) :
    analyze (" ".intercalate (analyze text)) =
      (analyzeChars ([' '].intercalate (analyzeChars text.toList))).map String.ofList := by
  have tokens : (analyze text).map String.toList = analyzeChars text.toList := by
    simp [analyze, Function.comp_def]
  rw [analyze, String.toList_intercalate, tokens]
  rfl

/-- The tokens of a text are not empty, are in lower case and are no stop words, and besides
alphanumeric characters they hold combining dots at most. They hold no dot, and are found again in
the text that joins them, exactly when the analyzed text has no dotted capital I. -/
theorem tokens_clean_iff_undotted (text : String) :
    (∀ token ∈ analyze text, token ≠ "" ∧ Text.lowercase token.toList = token.toList ∧
      token ∉ stopWords ∧ ∀ c ∈ token.toList, Text.isAlphanumeric c ∨ c = '\u0307') ∧
    ((∀ token ∈ analyze text, ∀ c ∈ token.toList, Text.isAlphanumeric c) ↔
      '\u0130' ∉ text.toList) ∧
    (analyze (" ".intercalate (analyze text)) = analyze text ↔ '\u0130' ∉ text.toList) := by
  refine ⟨?_, ?_, ?_⟩
  · intro token mem
    rw [mem_analyze_iff] at mem
    refine ⟨?_, lowercase_of_mem_analyzeChars mem, ?_, ?_⟩
    · rintro rfl
      exact ne_nil_of_mem_analyzeChars mem rfl
    · rw [← isStopWord_toList, Bool.not_eq_true]
      exact (mem_analyzeChars.mp mem).2
    · intro c inside
      exact (isAlphanumeric_or_dot_of_mem_token mem inside).imp_right And.left
  · rw [← tokens_alphanumeric_iff]
    constructor
    · intro clean cs mem
      have listed : String.ofList cs ∈ analyze text := by
        rwa [mem_analyze_iff, String.toList_ofList]
      simpa using clean _ listed
    · intro clean token mem
      exact clean _ (mem_analyze_iff.mp mem)
  · rw [analyze_intercalate, ← analyzeChars_intercalate_iff]
    have injective : Function.Injective String.ofList :=
      fun _ _ same => String.ofList_injective same
    exact (List.map_injective_iff.mpr injective).eq_iff

/-- The dot of the small letter stays in the token, and a second analysis cuts the token there. -/
theorem analyze_dotted_capital :
    analyze "İstanbul" = ["i̇stanbul"] ∧ '\u0307' ∈ "i̇stanbul".toList ∧
      Text.isAlphanumeric '\u0307' = false ∧
      analyze (" ".intercalate (analyze "İstanbul")) = ["i", "stanbul"] := by
  decide +kernel

end Texts

end Search
end FieldQuery
