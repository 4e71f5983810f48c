import HybridRetrieval.Proofs.Lexeme.DocumentTerms
import HybridRetrieval.Proofs.Lexeme.Words
import HybridRetrieval.Proofs.Text.LowerCase
import Mathlib.Data.List.Forall2
/-!
# The lexemes of a text in lower case

A text is cut into words before the words are put into lower case.  Putting the text into lower case
first makes a difference in two ways.  The lower case of U+0130 ends with a mark, which belongs to
the lexeme if it is made from the word and separates words if it is made from the text.  And a
capital sigma looks at the characters around it, over the end of the word if the text has been put
into lower case as a whole.

To compare the two, `lowerInWordsAfter` puts a text into lower case with an eye on the words only.
Its words are those of the text, put into lower case (`words_lowerInWords`).  The other lower case
differs in the form of sigmas at most (`alike_lowerInWords`), which neither moves an end of a word
nor makes a stop word of it.  So the lexemes are the same exactly if the text has no U+0130 and each
capital sigma has the same form in its word as in the text (`lexemes_lowerCase_iff`).
-/

namespace HybridRetrieval

/-- Whether a capital sigma between characters, the ones before it nearest first, takes its final
form. -/
def isFinalSigma (before after : List Char) : Bool := startsCased before && !startsCased after

/-- The lower case of a text, each character looking at its own word only. -/
def lowerInWordsAfter (before : List Char) : List Char → List Char
  | [] => []
  | c :: rest =>
    lowerCharIn (before.takeWhile isWordChar) c (rest.takeWhile isWordChar) ++
      lowerInWordsAfter (c :: before) rest

/-! ## Words in lower case -/

/-- The part before a text of the word with which the text begins; nothing if it begins with
none. -/
def begunWord (before : List Char) : List Char → List Char
  | [] => []
  | c :: _ => if isWordChar c then before.takeWhile isWordChar else []

/-- Words in lower case, the first one after a part of it that came before. -/
def lowerWordsAfter (begun : List Char) : List (List Char) → List (List Char)
  | [] => []
  | word :: more => lowerCaseAfter begun word :: more.map lowerCase

/-- If no part of it came before, the first word is put into lower case like the others. -/
theorem lowerWordsAfter_nil (ws : List (List Char)) : lowerWordsAfter [] ws = ws.map lowerCase := by
  cases ws <;> rfl

/-- One character in lower case, and then the others. -/
theorem lowerCaseAfter_cons {before rest : List Char} {c d : Char}
    (h : lowerCharIn before c rest = [d]) :
    lowerCaseAfter before (c :: rest) = d :: lowerCaseAfter (c :: before) rest := by
  rw [lowerCaseAfter, h]
  rfl

/-- The lower case of the first character is one character of its class. -/
theorem exists_lowerInWordsAfter_cons {c : Char} (hdot : c ≠ 'İ') (before rest : List Char) :
    ∃ d, lowerCharIn (before.takeWhile isWordChar) c (rest.takeWhile isWordChar) = [d] ∧
      isWordChar d = isWordChar c ∧
      lowerInWordsAfter before (c :: rest) = d :: lowerInWordsAfter (c :: before) rest := by
  obtain ⟨d, hd, hclass, -⟩ := lowerCharIn_settles hdot (before.takeWhile isWordChar)
    (rest.takeWhile isWordChar)
  refine ⟨d, hd, hclass, ?_⟩
  rw [lowerInWordsAfter, hd]
  rfl

/-- **The words are those of the text, in lower case.** -/
theorem words_lowerInWordsAfter {cs : List Char} (hdot : 'İ' ∉ cs) (before : List Char) :
    words (lowerInWordsAfter before cs) = lowerWordsAfter (begunWord before cs) (words cs) := by
  induction cs generalizing before with
  | nil => rfl
  | cons c rest ih =>
      obtain ⟨hc, hrest⟩ := not_or.mp (List.mem_cons.not.mp hdot)
      obtain ⟨d, hd, hclass, heq⟩ := exists_lowerInWordsAfter_cons (Ne.symm hc) before rest
      have hwords := ih hrest (c :: before)
      rw [heq, words, words, hclass, begunWord]
      by_cases hletter : isWordChar c = true
      · rw [if_pos hletter, if_pos hletter, if_pos hletter, hwords]
        cases rest with
        | nil =>
            rw [List.takeWhile_nil] at hd
            change [[d]] = lowerWordsAfter (before.takeWhile isWordChar) [[c]]
            rw [lowerWordsAfter, lowerCaseAfter_cons hd]
            rfl
        | cons e more =>
            obtain ⟨he, -⟩ := not_or.mp (List.mem_cons.not.mp hrest)
            obtain ⟨f, -, hclass', heq'⟩ :=
              exists_lowerInWordsAfter_cons (Ne.symm he) (c :: before) more
            rw [heq', begunWord]
            by_cases hnext : isWordChar e = true
            · -- the word goes on: what its next characters look at is longer by `c`
              rw [List.takeWhile_cons_of_pos hnext] at hd
              rw [if_pos hnext, List.takeWhile_cons_of_pos hletter, words_of_letter hnext,
                attachLetter_of_letter hnext, lowerWordsAfter, lowerWordsAfter,
                attachLetter_of_letter (hclass'.trans hnext), lowerCaseAfter_cons hd]
            · rw [List.takeWhile_cons_of_neg hnext] at hd
              rw [if_neg hnext, lowerWordsAfter_nil,
                attachLetter_of_break (by simpa [hclass'] using hnext),
                attachLetter_of_break (by simpa using hnext), lowerWordsAfter,
                lowerCaseAfter_cons hd]
              rfl
      · rw [if_neg hletter, if_neg hletter, if_neg hletter, hwords, lowerWordsAfter_nil]
        have hbegun : begunWord (c :: before) rest = [] := by
          cases rest with
          | nil => rfl
          | cons e more => simp [begunWord, hletter]
        rw [hbegun, lowerWordsAfter_nil]

/-- **Putting the words of a text into lower case** gives the words of the text in which each
character looks at its own word only. -/
theorem words_lowerInWords {cs : List Char} (hdot : 'İ' ∉ cs) :
    words (lowerInWordsAfter [] cs) = (words cs).map lowerCase := by
  have hnone : begunWord [] cs = [] := by
    cases cs with
    | nil => rfl
    | cons c rest => simp [begunWord]
  rw [words_lowerInWordsAfter hdot, hnone, lowerWordsAfter_nil]

/-! ## Forms of sigma -/

/-- The characters are the same, or both are small sigmas. -/
def SigmaAlike (x y : Char) : Prop := x = y ∨ (x = 'σ' ∨ x = 'ς') ∧ (y = 'σ' ∨ y = 'ς')

/-- A small sigma is a letter. -/
theorem isWordChar_sigma {x : Char} (h : x = 'σ' ∨ x = 'ς') : isWordChar x = true := by
  rcases h with rfl | rfl
  · exact sigma_classes.2.1.1
  · exact sigma_classes.2.2.1

/-- The forms of sigma are of one class. -/
theorem SigmaAlike.isWordChar_eq {x y : Char} (h : SigmaAlike x y) :
    isWordChar x = isWordChar y := by
  rcases h with rfl | ⟨hx, hy⟩
  · rfl
  · rw [isWordChar_sigma hx, isWordChar_sigma hy]

/-- Characters that are not letters are alike only if they are the same. -/
theorem SigmaAlike.eq_of_not_letter {x y : Char} (h : SigmaAlike x y)
    (hx : isWordChar x = false) : x = y := by
  rcases h with h | ⟨hsigma, -⟩
  · exact h
  · simp [isWordChar_sigma hsigma] at hx

/-- The two ways to put a text into lower case give texts that are alike. -/
theorem alike_lowerInWords (before cs : List Char) :
    List.Forall₂ SigmaAlike (lowerCaseAfter before cs) (lowerInWordsAfter before cs) := by
  induction cs generalizing before with
  | nil => exact .nil
  | cons c rest ih =>
      rw [lowerCaseAfter, lowerInWordsAfter]
      refine List.rel_append ?_ (ih _)
      unfold lowerCharIn
      split
      · refine .cons (Or.inr ⟨?_, ?_⟩) .nil <;> split <;> simp
      · exact List.forall₂_same.mpr fun _ _ => Or.inl rfl

/-- Alike texts have alike words. -/
theorem alike_words {xs ys : List Char} (h : List.Forall₂ SigmaAlike xs ys) :
    List.Forall₂ (List.Forall₂ SigmaAlike) (words xs) (words ys) := by
  induction h with
  | nil => exact .nil
  | cons hxy hrest ih =>
      rename_i x y xs ys
      rw [words, words, hxy.isWordChar_eq]
      split
      · cases hrest with
        | nil => exact .cons (.cons hxy .nil) .nil
        | cons hnext hmore =>
            rename_i x' y' xs ys
            by_cases hletter : isWordChar y' = true
            · have hletter' := hnext.isWordChar_eq.trans hletter
              rw [words_of_letter hletter, words_of_letter hletter'] at ih ⊢
              rw [attachLetter_of_letter hletter, attachLetter_of_letter hletter']
              cases ih with
              | cons hfirst hothers => exact .cons (.cons hxy hfirst) hothers
            · rw [attachLetter_of_break (by simpa [hnext.isWordChar_eq] using hletter),
                attachLetter_of_break (by simpa using hletter)]
              exact .cons (.cons hxy .nil) ih
      · exact ih

/-- Alike texts with the same words are the same. -/
theorem eq_of_words_eq {xs ys : List Char} (h : List.Forall₂ SigmaAlike xs ys)
    (hwords : words xs = words ys) : xs = ys := by
  induction h with
  | nil => rfl
  | cons hxy hrest ih =>
      rename_i x y xs ys
      rw [words, words, hxy.isWordChar_eq] at hwords
      split at hwords
      · cases hrest with
        | nil => simpa [attachLetter, words] using hwords
        | cons hnext hmore =>
            rename_i x' y' xs ys
            by_cases hletter : isWordChar y' = true
            · have hletter' := hnext.isWordChar_eq.trans hletter
              rw [words_of_letter hletter, words_of_letter hletter'] at ih hwords
              rw [attachLetter_of_letter hletter, attachLetter_of_letter hletter'] at hwords
              obtain ⟨hfirst, hothers⟩ := List.cons.inj hwords
              obtain ⟨rfl, htail⟩ := List.cons.inj hfirst
              rw [ih (by rw [htail, hothers])]
            · rw [attachLetter_of_break (by simpa [hnext.isWordChar_eq] using hletter),
                attachLetter_of_break (by simpa using hletter)] at hwords
              obtain ⟨hfirst, hothers⟩ := List.cons.inj hwords
              obtain ⟨rfl, -⟩ := List.cons.inj hfirst
              rw [ih hothers]
      · rename_i hletter
        have hbreak : isWordChar x = false := by
          rw [hxy.isWordChar_eq]
          simpa using hletter
        rw [hxy.eq_of_not_letter hbreak, ih hwords]

/-- Two forms of a capital sigma are the same if it takes its final form in both places or in
neither. -/
theorem lowerCharIn_sigma_eq_iff {before after before' after' : List Char} :
    lowerCharIn before 'Σ' after = lowerCharIn before' 'Σ' after' ↔
      isFinalSigma before after = isFinalSigma before' after' := by
  rw [lowerCharIn, lowerCharIn, if_pos rfl, if_pos rfl, ← isFinalSigma, ← isFinalSigma]
  cases isFinalSigma before after <;> cases isFinalSigma before' after' <;> decide

/-- **The two ways give the same text** exactly if each capital sigma takes in its word the form
that it takes in the text. -/
theorem lowerCaseAfter_eq_iff (before cs : List Char) :
    lowerCaseAfter before cs = lowerInWordsAfter before cs ↔
      ∀ first second, cs = first ++ 'Σ' :: second →
        isFinalSigma (first.reverse ++ before) second =
          isFinalSigma ((first.reverse ++ before).takeWhile isWordChar)
            (second.takeWhile isWordChar) := by
  induction cs generalizing before with
  | nil => simp [lowerCaseAfter, lowerInWordsAfter]
  | cons c rest ih =>
      -- a capital sigma is the first character or stands behind it
      have hfirst : lowerCaseAfter before (c :: rest) = lowerInWordsAfter before (c :: rest) ↔
          (c = 'Σ' → isFinalSigma before rest =
            isFinalSigma (before.takeWhile isWordChar) (rest.takeWhile isWordChar)) ∧
          lowerCaseAfter (c :: before) rest = lowerInWordsAfter (c :: before) rest := by
        rw [lowerCaseAfter, lowerInWordsAfter]
        by_cases hc : c = 'Σ'
        · subst hc
          rw [← lowerCharIn_sigma_eq_iff]
          simp [lowerCharIn]
        · simp [lowerCharIn, hc]
      rw [hfirst, ih]
      constructor
      · rintro ⟨hsigma, hlater⟩ first second heq
        cases first with
        | nil =>
            obtain ⟨hc, rfl⟩ := List.cons.inj heq
            exact hsigma hc
        | cons d more =>
            obtain ⟨rfl, hrest⟩ := List.cons.inj heq
            simpa using hlater more second hrest
      · intro hall
        refine ⟨fun hc => hall [] rest (by rw [hc]; rfl), fun first second heq => ?_⟩
        simpa using hall (c :: first) second (by rw [heq]; rfl)

namespace Analyzer

/-- Stop words are in ASCII. -/
theorem ascii_of_stopWord {word : List Char} (h : String.ofList word ∈ englishStopWords) :
    ∀ c ∈ word, c.toNat < 128 := by
  have hall : (englishStopWords.all fun w => w.toList.all fun c => c.toNat < 128) = true := by
    decide +kernel
  simpa using List.all_eq_true.mp hall _ h

/-- **A word with a character beyond ASCII** is a lexeme as it is. -/
theorem lexeme?_of_not_ascii (a : Analyzer) {word : List Char} {c : Char} (hc : c ∈ word)
    (h : ¬ c.toNat < 128) : a.lexeme? word = some (String.ofList word) := by
  cases a with
  | simple => rfl
  | english =>
      have hstop : ¬ String.ofList word ∈ englishStopWords := fun hmem =>
        h (ascii_of_stopWord hmem c hc)
      have hstem : stem word = word := by
        rw [stem, if_pos]
        refine Or.inr fun hall => h ?_
        simpa using List.all_eq_true.mp hall c hc
      rw [lexeme?, if_neg (by simpa using hstop), hstem]

/-- Alike words are the same, or both have a character beyond ASCII. -/
theorem eq_or_not_ascii {word other : List Char} (h : List.Forall₂ SigmaAlike word other) :
    word = other ∨ (∃ c ∈ word, ¬ c.toNat < 128) ∧ ∃ c ∈ other, ¬ c.toNat < 128 := by
  have hbig : ∀ z : Char, z = 'σ' ∨ z = 'ς' → ¬ z.toNat < 128 := by
    rintro z (rfl | rfl) <;> decide
  induction h with
  | nil => exact Or.inl rfl
  | cons hxy _ ih =>
      rcases hxy with rfl | ⟨hx, hy⟩
      · rcases ih with rfl | ⟨⟨c, hc, hc'⟩, d, hd, hd'⟩
        · exact Or.inl rfl
        · exact Or.inr ⟨⟨c, List.mem_cons_of_mem _ hc, hc'⟩, d, List.mem_cons_of_mem _ hd, hd'⟩
      · exact Or.inr ⟨⟨_, List.mem_cons_self, hbig _ hx⟩, _, List.mem_cons_self, hbig _ hy⟩

/-- **Alike words with the same lexemes are the same.** -/
theorem eq_of_lexemes_eq (a : Analyzer) {ws vs : List (List Char)}
    (h : List.Forall₂ (List.Forall₂ SigmaAlike) ws vs)
    (heq : ws.filterMap a.lexeme? = vs.filterMap a.lexeme?) : ws = vs := by
  induction h with
  | nil => rfl
  | cons hword _ ih =>
      rename_i w v ws vs
      rcases eq_or_not_ascii hword with rfl | ⟨⟨c, hc, hbig⟩, d, hd, hbig'⟩
      · rw [List.filterMap_cons, List.filterMap_cons] at heq
        split at heq
        · rw [ih heq]
        · rw [ih (List.cons.inj heq).2]
      · rw [List.filterMap_cons_some (a.lexeme?_of_not_ascii hc hbig),
          List.filterMap_cons_some (a.lexeme?_of_not_ascii hd hbig')] at heq
        obtain ⟨hfirst, hothers⟩ := List.cons.inj heq
        rw [String.ofList_injective hfirst, ih hothers]

/-- The lexemes of a text in lower case are made from its words as they are. -/
theorem lexemes_lowerCaseString (a : Analyzer) (text : String) :
    a.lexemes (lowerCaseString text) =
      (words (lowerCase text.toList)).filterMap a.lexeme? := by
  rw [lexemes, lowerCaseString, String.toList_ofList]
  refine List.filterMap_congr fun word hword => ?_
  have hsettled : ∀ c ∈ word, lowerChar c = [c] := by
    intro c hc
    exact lowerChar_of_mem_lowerCaseAfter (mem_words_iff.mp ⟨word, hword, hc⟩).1
  rw [lowerCase, lowerCaseAfter_of_settled hsettled]

/-- The lexemes of a text are made from its words in lower case. -/
theorem lexemes_eq (a : Analyzer) (text : String) :
    a.lexemes text = ((words text.toList).map lowerCase).filterMap a.lexeme? := by
  rw [lexemes, List.filterMap_map]
  rfl

/-! ## The letter with a dot -/

/-- The lower case of a text with U+0130 has a dot of its own. -/
theorem dot_mem_lowerCaseAfter {cs : List Char} (h : 'İ' ∈ cs) (before : List Char) :
    '\u0307' ∈ lowerCaseAfter before cs := by
  induction cs generalizing before with
  | nil => cases h
  | cons c rest ih =>
      rw [lowerCaseAfter, List.mem_append]
      rcases List.mem_cons.mp h with hc | hrest
      · rw [← hc, lowerCharIn, if_neg (by decide), lowerChar_dotted]
        exact Or.inl (by decide)
      · exact Or.inr (ih hrest _)

/-- A stem is made of characters of the word, but for a final `y`. -/
theorem mem_of_mem_stem {word : List Char} {c : Char} (h : c ∈ stem word) : c ∈ word ∨ c = 'y' := by
  unfold stem at h
  split at h
  · exact Or.inl h
  · split at h
    · rcases List.mem_append.mp h with h | h
      · exact Or.inl (List.mem_of_mem_take h)
      · exact Or.inr (List.mem_singleton.mp h)
    · repeat' split at h
      all_goals first | exact Or.inl h | exact Or.inl (List.mem_of_mem_take h)

/-- A lexeme is made of characters of its word, but for a final `y`. -/
theorem mem_of_lexeme? {a : Analyzer} {word : List Char} {x : String}
    (h : a.lexeme? word = some x) {c : Char} (hc : c ∈ x.toList) : c ∈ word ∨ c = 'y' := by
  cases a with
  | simple =>
      obtain rfl := Option.some.inj h
      exact Or.inl (by simpa using hc)
  | english =>
      rw [lexeme?] at h
      split at h
      · cases h
      · obtain rfl := Option.some.inj h
        exact mem_of_mem_stem (by simpa using hc)

/-- A lexeme of a text in lower case has letters only. -/
theorem isWordChar_of_mem_lexemes_lowerCase {a : Analyzer} {text x : String}
    (h : x ∈ a.lexemes (lowerCaseString text)) {c : Char} (hc : c ∈ x.toList) :
    isWordChar c = true := by
  rw [lexemes_lowerCaseString] at h
  obtain ⟨word, hword, hlexeme⟩ := List.mem_filterMap.mp h
  rcases mem_of_lexeme? hlexeme hc with hmem | rfl
  · exact (mem_words_iff.mp ⟨word, hword, hmem⟩).2
  · decide

/-- A text with U+0130 has a lexeme with a dot of its own. -/
theorem exists_lexeme_with_dot (a : Analyzer) {text : String} (h : 'İ' ∈ text.toList) :
    ∃ x ∈ a.lexemes text, '\u0307' ∈ x.toList := by
  obtain ⟨word, hword, hmem⟩ := mem_words_iff.mpr ⟨h, dotted_classes.1⟩
  have hdot : '\u0307' ∈ lowerCase word := dot_mem_lowerCaseAfter hmem []
  refine ⟨String.ofList (lowerCase word), ?_, by simpa using hdot⟩
  exact List.mem_filterMap.mpr ⟨word, hword, a.lexeme?_of_not_ascii hdot (by decide)⟩

end Analyzer

/-- **When case makes no difference.**  Putting a text into lower case leaves its lexemes as they
are, in order and number, exactly if it has no U+0130 and each of its capital sigmas takes in its
word the form that it takes in the text.  Then the terms of the text as a query and as a document
are the same too.  Any text without these two capitals is such a text. -/
theorem lexemes_lowerCase_iff (a : Analyzer) (text : String) :
    (a.lexemes (lowerCaseString text) = a.lexemes text ↔
      'İ' ∉ text.toList ∧ ∀ first second, text.toList = first ++ 'Σ' :: second →
        isFinalSigma first.reverse second =
          isFinalSigma (first.reverse.takeWhile isWordChar) (second.takeWhile isWordChar)) ∧
    (a.lexemes (lowerCaseString text) = a.lexemes text →
      a.queryTerms (lowerCaseString text) = a.queryTerms text ∧
      a.documentTerms (lowerCaseString text) = a.documentTerms text) ∧
    ('İ' ∉ text.toList → 'Σ' ∉ text.toList →
      a.lexemes (lowerCaseString text) = a.lexemes text) := by
  have hsame : 'İ' ∉ text.toList → (a.lexemes (lowerCaseString text) = a.lexemes text ↔
      ∀ first second, text.toList = first ++ 'Σ' :: second →
        isFinalSigma first.reverse second =
          isFinalSigma (first.reverse.takeWhile isWordChar) (second.takeWhile isWordChar)) := by
    intro hdot
    have hforms := lowerCaseAfter_eq_iff [] text.toList
    simp only [List.append_nil] at hforms
    have halike := alike_lowerInWords [] text.toList
    rw [a.lexemes_lowerCaseString, a.lexemes_eq, ← words_lowerInWords hdot, ← hforms]
    constructor
    · exact fun heq => eq_of_words_eq halike (a.eq_of_lexemes_eq (alike_words halike) heq)
    · exact fun heq => by rw [lowerCase, heq]
  refine ⟨⟨fun heq => ?_, fun ⟨hdot, hsigma⟩ => (hsame hdot).mpr hsigma⟩, ?_, ?_⟩
  · have hdot : 'İ' ∉ text.toList := by
      intro hmem
      obtain ⟨x, hx, hmark⟩ := a.exists_lexeme_with_dot hmem
      have hletter := Analyzer.isWordChar_of_mem_lexemes_lowerCase (heq ▸ hx) hmark
      simp [dotted_classes.2.1] at hletter
    exact ⟨hdot, (hsame hdot).mp heq⟩
  · intro heq
    rw [Analyzer.queryTerms, Analyzer.queryTerms, Analyzer.documentTerms, Analyzer.documentTerms,
      heq]
    exact ⟨rfl, rfl⟩
  · intro hdot hsigma
    refine (hsame hdot).mpr fun first second heq => absurd ?_ hsigma
    rw [heq]
    exact List.mem_append_right _ List.mem_cons_self

/-- A philosopher in capitals is found in small letters, with the final sigma. -/
theorem lexemes_lowerCase_ofSophos :
    lowerCaseString "The ΣΟΦΟΣ" = "the σοφος" ∧
      Analyzer.english.queryTerms (lowerCaseString "The ΣΟΦΟΣ") =
        Analyzer.english.queryTerms "The ΣΟΦΟΣ" ∧
      Analyzer.simple.lexemes (lowerCaseString "The FOX") = Analyzer.simple.lexemes "The FOX" := by
  have hlower : lowerCaseString "The ΣΟΦΟΣ" = "the σοφος" := by decide +kernel
  have hlexemes : Analyzer.english.lexemes (lowerCaseString "The ΣΟΦΟΣ") =
      Analyzer.english.lexemes "The ΣΟΦΟΣ" := by
    rw [hlower]
    decide +kernel
  refine ⟨hlower, ((lexemes_lowerCase_iff .english _).2.1 hlexemes).1, ?_⟩
  exact (lexemes_lowerCase_iff .simple "The FOX").2.2 (by decide +kernel) (by decide +kernel)

/-- The dotted capital belongs to the word `İx`; in lower case its dot splits the word. -/
theorem lexemes_lowerCase_ne_dotted :
    Analyzer.simple.lexemes "İx" = ["i\u0307x"] ∧
      Analyzer.simple.lexemes (lowerCaseString "İx") = ["i", "x"] ∧
      Analyzer.simple.lexemes (lowerCaseString "İx") ≠ Analyzer.simple.lexemes "İx" := by
  decide +kernel

end HybridRetrieval
