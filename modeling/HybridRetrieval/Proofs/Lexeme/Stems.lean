import HybridRetrieval.Proofs.Lexeme.LowerCase
/-!
# Stems of related words

A regular word makes its forms by adding `s`, `ed` or `ing`.  The stem of a form with `ed` or `ing`
is the word itself (`stem_past`, `stem_ongoing`), and so is the stem of the form with `s`, unless
the word ends in `i` or `u`, because `is` and `us` are taken for endings of singulars
(`stem_plural`).  The word itself is its own stem unless its own last letters are `ing` or `ed` and
it is long enough for these to be cut (`stem_of_not_plural`).  So all forms have one stem exactly if
none of these exceptions holds of the word (`stem_forms_eq_iff`).

In a text a word that is no stop word leaves its stem as a lexeme (`UsesWord.stem_mem_lexemes`), and
the text of a single word has no other (`IsTextOf.lexemes`).
-/

namespace HybridRetrieval

/-- The endings of words whose forms are made with other letters. -/
def irregularEndings : List (List Char) :=
  [['s'], ['x'], ['z'], ['c', 'h'], ['s', 'h'], ['e'], ['y']]

/-- A word in small ASCII letters to which endings are added without a change. -/
structure IsRegularBase (word : List Char) : Prop where
  long : 3 ≤ word.length
  letters : ∀ c ∈ word, 'a' ≤ c ∧ c ≤ 'z'
  regular : ∀ ending ∈ irregularEndings, endsWith word ending = false

instance (word : List Char) : Decidable (IsRegularBase word) :=
  decidable_of_iff (3 ≤ word.length ∧ (word.all fun c => 'a' ≤ c ∧ c ≤ 'z') = true ∧
      (irregularEndings.all fun ending => !endsWith word ending) = true)
    ⟨fun ⟨h, h', h''⟩ => ⟨h, by simpa using h', by simpa using h''⟩,
      fun ⟨h, h', h''⟩ => ⟨h, by simpa using h', by simpa using h''⟩⟩

/-- A word with its plural, its past and its progressive form. -/
def regularForms (word : List Char) : List (List Char) :=
  [word, word ++ ['s'], word ++ ['e', 'd'], word ++ ['i', 'n', 'g']]

/-- A word whose own last letters are not taken for an ending, alone or with an `s` behind them. -/
structure StemsAlike (word : List Char) : Prop where
  plural : endsWith word ['i'] = false ∧ endsWith word ['u'] = false
  past : endsWith word ['e', 'd'] = true → word.length < 5
  ongoing : endsWith word ['i', 'n', 'g'] = true → word.length < 6

/-! ## Endings -/

/-- The given letters are the last ones of the word. -/
theorem endsWith_iff {word ending : List Char} : endsWith word ending = true ↔ ending <:+ word :=
  List.isSuffixOf_iff_suffix

/-- A word ends with the endings of its endings. -/
theorem endsWith_of_append {word : List Char} (front : List Char) {last : List Char}
    (h : endsWith word last = false) : endsWith word (front ++ last) = false := by
  rw [Bool.eq_false_iff] at h ⊢
  exact fun hends => h (endsWith_iff.mpr ((List.suffix_append front last).trans
    (endsWith_iff.mp hends)))

/-- The same letters at the end of both make no difference. -/
theorem endsWith_append (word ending last : List Char) :
    endsWith (word ++ last) (ending ++ last) = endsWith word ending := by
  rw [Bool.eq_iff_iff, endsWith_iff, endsWith_iff, List.suffix_append_self_iff]

/-- An ending that is not longer than the last letters is one of these. -/
theorem endsWith_of_length_le (word : List Char) {last ending : List Char}
    (h : ending.length ≤ last.length) : endsWith (word ++ last) ending = endsWith last ending := by
  rw [Bool.eq_iff_iff, endsWith_iff, endsWith_iff]
  constructor
  · exact fun hends => List.suffix_of_suffix_length_le hends (List.suffix_append word last) h
  · exact fun hends => hends.trans (List.suffix_append word last)

/-- A word without the ending that was added to it. -/
theorem cutLast_append (word ending : List Char) :
    cutLast ending.length (word ++ ending) = word := by
  rw [cutLast, List.length_append, Nat.add_sub_cancel, List.take_left]

/-! ## Stems of forms -/

/-- **The stem of a word without an `s` at its end**: only `ing` and `ed` are cut. -/
theorem stem_of_not_plural {word : List Char} (hascii : word.all (·.toNat < 128) = true)
    (h : endsWith word ['s'] = false) :
    stem word = if endsWith word ['i', 'n', 'g'] = true ∧ 6 ≤ word.length then cutLast 3 word
      else if endsWith word ['e', 'd'] = true ∧ 5 ≤ word.length then cutLast 2 word
      else word := by
  have hies : endsWith word ['i', 'e', 's'] = false := endsWith_of_append ['i', 'e'] h
  have hhissing : hissingPlurals.any (endsWith word) = false := by
    simp only [hissingPlurals, List.any_cons, List.any_nil, Bool.or_false, Bool.or_eq_false_iff]
    exact ⟨endsWith_of_append ['s', 's', 'e'] h, endsWith_of_append ['x', 'e'] h,
      endsWith_of_append ['c', 'h', 'e'] h, endsWith_of_append ['s', 'h', 'e'] h,
      endsWith_of_append ['z', 'e'] h⟩
  by_cases hshort : word.length ≤ 3
  · rw [stem, if_pos (Or.inl hshort), if_neg (by omega), if_neg (by omega)]
  · rw [stem, if_neg (by simp [hshort, hascii]), if_neg (by simp [hies]),
      if_neg (by simp [hhissing]), if_neg (by simp [h])]

/-- **The stem of a word with an `s` added to it**: the `s` is cut, unless it belongs to the end of
a singular. -/
theorem stem_of_plural {word : List Char} (hlong : 3 ≤ word.length)
    (hascii : word.all (·.toNat < 128) = true) (h : endsWith word ['e'] = false) :
    stem (word ++ ['s']) =
      if singularEndings.any (endsWith (word ++ ['s'])) = true then word ++ ['s'] else word := by
  have hes : ∀ front, endsWith (word ++ ['s']) (front ++ ['e'] ++ ['s']) = false := fun front =>
    (endsWith_append word _ ['s']).trans (endsWith_of_append front h)
  have hies : endsWith (word ++ ['s']) ['i', 'e', 's'] = false := hes ['i']
  have hhissing : hissingPlurals.any (endsWith (word ++ ['s'])) = false := by
    simp only [hissingPlurals, List.any_cons, List.any_nil, Bool.or_false, Bool.or_eq_false_iff]
    exact ⟨hes ['s', 's'], hes ['x'], hes ['c', 'h'], hes ['s', 'h'], hes ['z']⟩
  have hlast : ∀ c, endsWith (word ++ ['s']) [c] = endsWith ['s'] [c] := fun _ =>
    endsWith_of_length_le word le_rfl
  have hing : endsWith (word ++ ['s']) ['i', 'n', 'g'] = false :=
    endsWith_of_append ['i', 'n'] (hlast 'g')
  have hed : endsWith (word ++ ['s']) ['e', 'd'] = false := endsWith_of_append ['e'] (hlast 'd')
  have hs : endsWith (word ++ ['s']) ['s'] = true := hlast 's'
  have hcut : ¬ ((word ++ ['s']).length ≤ 3 ∨ ¬ (word ++ ['s']).all (·.toNat < 128)) := by
    simp [List.all_append, hascii]
    omega
  rw [stem, if_neg hcut, if_neg (by simp [hies]), if_neg (by simp [hhissing])]
  by_cases hsingular : singularEndings.any (endsWith (word ++ ['s'])) = true
  · rw [if_pos hsingular, if_neg (by simp [hsingular]), if_neg (by simp [hing]),
      if_neg (by simp [hed])]
  · rw [if_neg hsingular, if_pos ⟨hs, hsingular⟩]
    exact cutLast_append word ['s']

namespace IsRegularBase

variable {word : List Char} (hword : IsRegularBase word)
include hword

/-- The word is written in ASCII. -/
theorem ascii : word.all (·.toNat < 128) = true := by
  refine List.all_eq_true.mpr fun c hc => ?_
  have hz : c.toNat ≤ 'z'.toNat := (hword.letters c hc).2
  exact decide_eq_true (Nat.lt_of_le_of_lt hz (by decide))

/-- A form of the word is written in ASCII if its ending is. -/
theorem ascii_append {ending : List Char} (h : ending.all (·.toNat < 128) = true) :
    (word ++ ending).all (·.toNat < 128) = true := by
  rw [List.all_append, hword.ascii, h]
  rfl

/-- **The stem of the plural** is the word, unless the word ends in `i` or `u`. -/
theorem stem_plural :
    stem (word ++ ['s']) =
      if endsWith word ['i'] = true ∨ endsWith word ['u'] = true then word ++ ['s'] else word := by
  have hends : ∀ c, endsWith (word ++ ['s']) [c, 's'] = endsWith word [c] := fun c =>
    endsWith_append word [c] ['s']
  have hsingular : singularEndings.any (endsWith (word ++ ['s'])) = true ↔
      endsWith word ['i'] = true ∨ endsWith word ['u'] = true := by
    have hs : endsWith word ['s'] = false := hword.regular _ (by decide)
    simp [singularEndings, hends, hs, or_comm]
  rw [stem_of_plural hword.long hword.ascii (hword.regular _ (by decide))]
  exact if_congr hsingular rfl rfl

/-- **The stem of the past form** is the word. -/
theorem stem_past : stem (word ++ ['e', 'd']) = word := by
  have hlong := hword.long
  have hlast : ∀ ending, ending.length ≤ 2 →
      endsWith (word ++ ['e', 'd']) ending = endsWith ['e', 'd'] ending := fun _ h =>
    endsWith_of_length_le word h
  have hing : endsWith (word ++ ['e', 'd']) ['i', 'n', 'g'] = false :=
    endsWith_of_append ['i', 'n'] (hlast ['g'] (by decide))
  rw [stem_of_not_plural (hword.ascii_append rfl) (hlast ['s'] (by decide)),
    if_neg (by simp [hing]), if_pos ⟨hlast _ le_rfl, by simp; omega⟩]
  exact cutLast_append word ['e', 'd']

/-- **The stem of the progressive form** is the word. -/
theorem stem_ongoing : stem (word ++ ['i', 'n', 'g']) = word := by
  have hlong := hword.long
  have hlast : ∀ ending, ending.length ≤ 3 →
      endsWith (word ++ ['i', 'n', 'g']) ending = endsWith ['i', 'n', 'g'] ending := fun _ h =>
    endsWith_of_length_le word h
  rw [stem_of_not_plural (hword.ascii_append rfl) (hlast ['s'] (by decide)),
    if_pos ⟨hlast _ le_rfl, by simp; omega⟩]
  exact cutLast_append word ['i', 'n', 'g']

/-- The word is its own stem exactly if its own last letters are not cut. -/
theorem stem_base_eq_iff :
    stem word = word ↔ (endsWith word ['e', 'd'] = true → word.length < 5) ∧
      (endsWith word ['i', 'n', 'g'] = true → word.length < 6) := by
  have hlong := hword.long
  have hcut : ∀ count, 0 < count → cutLast count word ≠ word := by
    intro count hcount heq
    have hlength := congrArg List.length heq
    rw [cutLast, List.length_take] at hlength
    omega
  rw [stem_of_not_plural hword.ascii (hword.regular _ (by decide))]
  split
  · rename_i hing
    exact iff_of_false (hcut 3 (by decide)) fun ⟨_, h⟩ => absurd (h hing.1) (by omega)
  · rename_i hing
    split
    · rename_i hed
      exact iff_of_false (hcut 2 (by decide)) fun ⟨h, _⟩ => absurd (h hed.1) (by omega)
    · rename_i hed
      exact iff_of_true rfl ⟨fun h => Nat.lt_of_not_le fun hle => hed ⟨h, hle⟩,
        fun h => Nat.lt_of_not_le fun hle => hing ⟨h, hle⟩⟩

/-- The plural has the word as its stem exactly if the word ends neither in `i` nor in `u`. -/
theorem stem_plural_eq_iff :
    stem (word ++ ['s']) = word ↔ endsWith word ['i'] = false ∧ endsWith word ['u'] = false := by
  rw [hword.stem_plural, ← Bool.not_eq_true, ← Bool.not_eq_true, ← not_or]
  split
  · rename_i h
    exact iff_of_false (by simp) (not_not.mpr h)
  · rename_i h
    exact iff_of_true rfl h

/-- **When the forms of a word have one stem.**  It is the word then. -/
theorem stem_forms_eq_iff :
    (∀ f ∈ regularForms word, ∀ g ∈ regularForms word, stem f = stem g) ↔ StemsAlike word := by
  have hforms : (∀ f ∈ regularForms word, ∀ g ∈ regularForms word, stem f = stem g) ↔
      stem word = word ∧ stem (word ++ ['s']) = word := by
    simp only [regularForms, List.forall_mem_cons, List.not_mem_nil, false_implies, implies_true,
      and_true, hword.stem_past, hword.stem_ongoing]
    constructor
    · rintro ⟨⟨-, -, hbase⟩, ⟨-, -, hplural⟩, -⟩
      exact ⟨hbase.1, hplural.1⟩
    · rintro ⟨hbase, hplural⟩
      simp only [hbase, hplural, and_self]
  rw [hforms, hword.stem_base_eq_iff, hword.stem_plural_eq_iff]
  exact ⟨fun ⟨⟨hpast, hongoing⟩, hplural⟩ => ⟨hplural, hpast, hongoing⟩,
    fun h => ⟨⟨h.past, h.ongoing⟩, h.plural⟩⟩

end IsRegularBase

/-! ## Words in texts -/

/-- A word too common to be searched for. -/
def IsStopWord (word : List Char) : Prop := String.ofList word ∈ englishStopWords

/-- The text has the word among its words, in any case. -/
def UsesWord (text : String) (word : List Char) : Prop := word ∈ (words text.toList).map lowerCase

/-- The text has the word as its only one. -/
def IsTextOf (text : String) (word : List Char) : Prop :=
  (words text.toList).map lowerCase = [word]

instance (word : List Char) : Decidable (IsStopWord word) :=
  inferInstanceAs (Decidable (String.ofList word ∈ englishStopWords))

instance (text : String) (word : List Char) : Decidable (UsesWord text word) :=
  inferInstanceAs (Decidable (word ∈ (words text.toList).map lowerCase))

/-- A word that is no stop word has its stem as its lexeme. -/
theorem lexeme?_of_not_stopWord {word : List Char} (h : ¬ IsStopWord word) :
    Analyzer.english.lexeme? word = some (String.ofList (stem word)) := by
  rw [Analyzer.lexeme?, if_neg (by simpa [IsStopWord] using h)]

/-- A stop word has no lexeme. -/
theorem lexeme?_of_stopWord {word : List Char} (h : IsStopWord word) :
    Analyzer.english.lexeme? word = none := by
  rw [Analyzer.lexeme?, if_pos (by simpa [IsStopWord] using h)]

/-- The text of a word that is no stop word has its stem as its only lexeme. -/
theorem IsTextOf.lexemes {text : String} {word : List Char} (h : IsTextOf text word)
    (hstop : ¬ IsStopWord word) :
    Analyzer.english.lexemes text = [String.ofList (stem word)] := by
  rw [Analyzer.lexemes_eq, h, List.filterMap_cons_some (lexeme?_of_not_stopWord hstop),
    List.filterMap_nil]

/-- The text of a stop word has no lexemes. -/
theorem IsTextOf.lexemes_eq_nil {text : String} {word : List Char} (h : IsTextOf text word)
    (hstop : IsStopWord word) : Analyzer.english.lexemes text = [] := by
  rw [Analyzer.lexemes_eq, h, List.filterMap_cons_none (lexeme?_of_stopWord hstop),
    List.filterMap_nil]

/-- The stem of a word that the text uses is a lexeme of the text, if the word is no stop word. -/
theorem UsesWord.stem_mem_lexemes {text : String} {word : List Char} (h : UsesWord text word)
    (hstop : ¬ IsStopWord word) :
    String.ofList (stem word) ∈ Analyzer.english.lexemes text := by
  rw [Analyzer.lexemes_eq]
  exact List.mem_filterMap.mpr ⟨word, h, lexeme?_of_not_stopWord hstop⟩

end HybridRetrieval
