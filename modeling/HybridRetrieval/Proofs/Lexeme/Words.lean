import HybridRetrieval.Lexeme.Analyzer
/-!
# Words and lexemes of a text

A character that is no letter ends a word, so the words of a text that goes on behind one are the
words before it and those behind it (`words_append`).

Every word of a text is itself a text with that one word (`words_of_isWord`).  So whatever lexeme a
text can have, some text has it as its only one (`exists_single_lexeme`): a query can ask for any
lexeme by itself.
-/

namespace HybridRetrieval

/-- A run of letters and numbers that is not empty. -/
def IsWord (w : List Char) : Prop := w ≠ [] ∧ ∀ c ∈ w, isWordChar c = true

/-- What a letter in front adds to the words: a word of its own, or the first one made longer. -/
theorem mem_attachLetter {c : Char} {rest : List Char} {tail : List (List Char)} {w : List Char}
    (h : w ∈ attachLetter c rest tail) :
    w = [c] ∨ (∃ word ∈ tail, w = c :: word) ∨ w ∈ tail := by
  unfold attachLetter at h
  split at h
  · split at h
    · rcases List.mem_cons.mp h with rfl | h
      · exact Or.inr (Or.inl ⟨_, List.mem_cons_self, rfl⟩)
      · exact Or.inr (Or.inr (List.mem_cons_of_mem _ h))
    · rcases List.mem_cons.mp h with rfl | h
      · exact Or.inl rfl
      · exact Or.inr (Or.inr h)
  · rcases List.mem_cons.mp h with rfl | h
    · exact Or.inl rfl
    · exact Or.inr (Or.inr h)

/-- The words of a text are words. -/
theorem isWord_of_mem_words {cs w : List Char} (h : w ∈ words cs) : IsWord w := by
  induction cs generalizing w with
  | nil => cases h
  | cons c rest ih =>
      unfold words at h
      split at h
      · rename_i hc
        rcases mem_attachLetter h with rfl | ⟨word, hword, rfl⟩ | hmem
        · exact ⟨by simp, by simpa using hc⟩
        · refine ⟨by simp, ?_⟩
          intro d hd
          rcases List.mem_cons.mp hd with rfl | hd
          · exact hc
          · exact (ih hword).2 d hd
        · exact ih hmem
      · exact ih h

/-- A word is the only word of itself. -/
theorem words_of_isWord {w : List Char} (h : IsWord w) : words w = [w] := by
  induction w with
  | nil => exact absurd rfl h.1
  | cons c rest ih =>
      have hc : isWordChar c = true := h.2 c List.mem_cons_self
      rw [words, if_pos hc]
      cases rest with
      | nil => rfl
      | cons d more =>
          have hrest : IsWord (d :: more) :=
            ⟨by simp, fun e he => h.2 e (List.mem_cons_of_mem _ he)⟩
          have hd : isWordChar d = true := hrest.2 d List.mem_cons_self
          rw [ih hrest]
          exact if_pos hd

/-! ## Letters and separators -/

/-- Where no letter follows, a letter is a word of its own. -/
theorem attachLetter_of_break {c : Char} {rest : List Char} {tail : List (List Char)}
    (h : ∀ d ∈ rest.head?, isWordChar d = false) : attachLetter c rest tail = [c] :: tail := by
  cases rest with
  | nil => rfl
  | cons d more =>
      cases tail with
      | nil => rfl
      | cons word others => simp [attachLetter, h d rfl]

/-- Where a letter follows, the letter belongs to its word. -/
theorem attachLetter_of_letter {c d : Char} (h : isWordChar d = true) (rest word : List Char)
    (more : List (List Char)) :
    attachLetter c (d :: rest) (word :: more) = (c :: word) :: more := by
  simp [attachLetter, h]

/-- **The first word** of a text that begins with a letter goes on as long as there are letters. -/
theorem words_of_letter {d : Char} (h : isWordChar d = true) (rest : List Char) :
    words (d :: rest) =
      (d :: rest.takeWhile isWordChar) :: words (rest.dropWhile isWordChar) := by
  induction rest generalizing d with
  | nil =>
      rw [words, if_pos h]
      rfl
  | cons e more ih =>
      rw [words, if_pos h]
      by_cases he : isWordChar e = true
      · rw [ih he, attachLetter_of_letter he, List.takeWhile_cons_of_pos he,
          List.dropWhile_cons_of_pos he]
      · rw [attachLetter_of_break (by simpa using he), List.takeWhile_cons_of_neg he,
          List.dropWhile_cons_of_neg he]

/-- The words of a text hold its letters. -/
theorem flatten_words (cs : List Char) : (words cs).flatten = cs.filter isWordChar := by
  induction cs with
  | nil => rfl
  | cons c rest ih =>
      by_cases hc : isWordChar c = true
      · rw [List.filter_cons_of_pos hc, ← ih, words, if_pos hc]
        cases rest with
        | nil => rfl
        | cons d more =>
            by_cases hd : isWordChar d = true
            · rw [words_of_letter hd, attachLetter_of_letter hd]
              rfl
            · rw [attachLetter_of_break (by simpa using hd)]
              rfl
      · rw [List.filter_cons_of_neg hc, words, if_neg hc, ih]

/-- The characters of the words are the letters of the text. -/
theorem mem_words_iff {cs : List Char} {c : Char} :
    (∃ w ∈ words cs, c ∈ w) ↔ c ∈ cs ∧ isWordChar c = true := by
  rw [← List.mem_flatten, flatten_words, List.mem_filter]

/-- **A character that is no letter separates words.** -/
theorem words_append {c : Char} (h : isWordChar c = false) (xs ys : List Char) :
    words (xs ++ c :: ys) = words xs ++ words ys := by
  induction xs with
  | nil => simp [words, h]
  | cons x rest ih =>
      rw [List.cons_append, words, words, ih]
      by_cases hx : isWordChar x = true
      · rw [if_pos hx, if_pos hx]
        cases rest with
        | nil => exact attachLetter_of_break (by simpa using h)
        | cons d more =>
            by_cases hd : isWordChar d = true
            · rw [words_of_letter hd, List.cons_append, List.cons_append,
                attachLetter_of_letter hd, attachLetter_of_letter hd, List.cons_append]
            · have hbreak : ∀ e ∈ (d :: more).head?, isWordChar e = false := by
                simpa using hd
              rw [attachLetter_of_break hbreak, attachLetter_of_break (by simpa using hd),
                List.cons_append]
      · rw [if_neg hx, if_neg hx]

/-- Separators in front of a text add no words. -/
theorem words_of_separators {sep : List Char} (h : ∀ c ∈ sep, isWordChar c = false)
    (ys : List Char) : words (sep ++ ys) = words ys := by
  induction sep with
  | nil => rfl
  | cons c rest ih =>
      rw [List.cons_append, words, if_neg (by simp [h c List.mem_cons_self])]
      exact ih fun d hd => h d (List.mem_cons_of_mem _ hd)

namespace Analyzer

/-- A lexeme that some text has. -/
def Produces (a : Analyzer) (x : String) : Prop := ∃ text, x ∈ a.lexemes text

/-- **A lexeme by itself.**  Whatever a text can have as a lexeme is the only lexeme of some
text. -/
theorem exists_single_lexeme {a : Analyzer} {x : String} (h : a.Produces x) :
    ∃ text, a.lexemes text = [x] := by
  obtain ⟨text, hx⟩ := h
  obtain ⟨word, hword, hlexeme⟩ := List.mem_filterMap.mp hx
  refine ⟨String.ofList word, ?_⟩
  rw [lexemes, String.toList_ofList, words_of_isWord (isWord_of_mem_words hword)]
  simp [hlexeme]

/-- A query asks for the lexemes of its text. -/
theorem mem_queryTerms {a : Analyzer} {text x : String} :
    x ∈ a.queryTerms text ↔ x ∈ a.lexemes text := by
  rw [queryTerms, List.mem_eraseDups]

/-- A query asks for nothing if its text has no lexemes. -/
theorem isEmpty_queryTerms {a : Analyzer} {text : String} :
    (a.queryTerms text).isEmpty = (a.lexemes text).isEmpty := by
  rw [Bool.eq_iff_iff, List.isEmpty_iff, List.isEmpty_iff, List.eq_nil_iff_forall_not_mem,
    List.eq_nil_iff_forall_not_mem]
  exact forall_congr' fun x => not_congr mem_queryTerms

end Analyzer

end HybridRetrieval
