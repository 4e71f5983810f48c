import HybridRetrieval.Proofs.Lexeme.QueryTerms
import HybridRetrieval.Proofs.Lexeme.Stems
/-!
# How much a stem keeps of its word

Words of at most three letters are left alone, and the rules that cut more than is safe then look at
the length again.  So there are three things that can happen to a word (`stem_cases`): it is its own
stem, its last letters are replaced by `y`, or up to three of them are cut and at least two are
left.  A word therefore always has something for its stem (`keeps_stem`), and since no word is
empty, no lexeme is (`Analyzer.ne_empty_of_mem_lexemes`).
-/

namespace HybridRetrieval

/-- A word of which no ending is cut, whatever it ends in. -/
def IsLeftAlone (word : List Char) : Prop := word.length ≤ 3 ∨ ∃ c ∈ word, ¬ c.toNat < 128

/-- A word whose last letters `ies` are replaced by `y`. -/
structure TakesY (word : List Char) : Prop where
  cut : ¬ IsLeftAlone word
  long : 4 < word.length
  plural : ['i', 'e', 's'] <:+ word

/-- What is kept of a word. -/
structure Keeps (word kept : List Char) : Prop where
  nonempty : kept ≠ []
  length_le : kept.length ≤ word.length
  alone : IsLeftAlone word → kept = word
  two_le : ¬ IsLeftAlone word → 2 ≤ kept.length
  front : ¬ TakesY word → kept <+: word ∧ word.length ≤ kept.length + 3
  ending : TakesY word → kept = cutLast 3 word ++ ['y']

/-- A word is left alone exactly if the stemmer does not look at its ending. -/
theorem isLeftAlone_iff {word : List Char} :
    IsLeftAlone word ↔ word.length ≤ 3 ∨ ¬ word.all (·.toNat < 128) := by
  simp [IsLeftAlone]

/-- A word that is not left alone is longer than three letters. -/
theorem three_lt_of_not_isLeftAlone {word : List Char} (h : ¬ IsLeftAlone word) : 3 < word.length :=
  Nat.lt_of_not_le fun hle => h (Or.inl hle)

/-- A word that is left alone does not take `y`. -/
theorem IsLeftAlone.not_takesY {word : List Char} (h : IsLeftAlone word) : ¬ TakesY word :=
  fun hy => hy.cut h

/-- What is left after a cut is the front of the word. -/
theorem cutLast_prefix (count : Nat) (word : List Char) : cutLast count word <+: word :=
  List.take_prefix _ _

theorem length_cutLast (count : Nat) (word : List Char) :
    (cutLast count word).length = word.length - count := by
  rw [cutLast, List.length_take]
  omega

/-- A word that ends in `ies` and is long enough gets `y` for it. -/
theorem TakesY.stem_eq {word : List Char} (h : TakesY word) :
    stem word = cutLast 3 word ++ ['y'] := by
  rw [stem, if_neg (isLeftAlone_iff.not.mp h.cut), if_pos ⟨endsWith_iff.mpr h.plural, h.long⟩]

/-- **What the rules do.**  A word keeps its ending, gets `y` for it, or loses up to three letters
of which it had at least two more. -/
theorem stem_cases (word : List Char) :
    stem word = word ∨ TakesY word ∨
      ¬ IsLeftAlone word ∧
        ∃ count ≤ 3, count + 2 ≤ word.length ∧ stem word = cutLast count word := by
  by_cases halone : IsLeftAlone word
  · exact Or.inl (if_pos (isLeftAlone_iff.mp halone))
  have hlong := three_lt_of_not_isLeftAlone halone
  -- the rules in their order, each with the length that its guard leaves
  rw [stem, if_neg (isLeftAlone_iff.not.mp halone)]
  split
  · rename_i hies
    exact Or.inr (Or.inl ⟨halone, hies.2, endsWith_iff.mp hies.1⟩)
  · split
    · exact Or.inr (Or.inr ⟨halone, 2, by omega, by omega, rfl⟩)
    · split
      · exact Or.inr (Or.inr ⟨halone, 1, by omega, by omega, rfl⟩)
      · split
        · rename_i hing
          exact Or.inr (Or.inr ⟨halone, 3, le_rfl, by omega, rfl⟩)
        · split
          · rename_i hed
            exact Or.inr (Or.inr ⟨halone, 2, by omega, by omega, rfl⟩)
          · exact Or.inl rfl

/-- **The stem of a word** keeps something of it. -/
theorem keeps_stem {word : List Char} (h : word ≠ []) : Keeps word (stem word) := by
  rcases stem_cases word with hself | hy | ⟨hcut, count, hcount, hleft, hstem⟩
  · rw [hself]
    exact
      { nonempty := h
        length_le := le_rfl
        alone := fun _ => rfl
        two_le := fun halone => Nat.le_of_succ_le (three_lt_of_not_isLeftAlone halone).le
        front := fun _ => ⟨List.prefix_rfl, Nat.le_add_right _ _⟩
        ending := fun hy => hself.symm.trans hy.stem_eq }
  · have hfive := hy.long
    have hlength : (cutLast 3 word ++ ['y']).length = word.length - 2 := by
      rw [List.length_append, length_cutLast, List.length_singleton]
      omega
    rw [hy.stem_eq]
    exact
      { nonempty := List.append_ne_nil_of_right_ne_nil _ (List.cons_ne_nil _ _)
        length_le := by omega
        alone := fun halone => absurd hy halone.not_takesY
        two_le := fun _ => by omega
        front := fun hnot => absurd hy hnot
        ending := fun _ => rfl }
  · have hlength : (stem word).length = word.length - count := by rw [hstem, length_cutLast]
    exact
      { nonempty := List.ne_nil_of_length_pos (by omega)
        length_le := by omega
        alone := fun halone => absurd halone hcut
        two_le := fun _ => by omega
        front := fun _ => ⟨hstem ▸ cutLast_prefix count word, by omega⟩
        ending := TakesY.stem_eq }

/-! ## Lexemes -/

/-- No character has nothing for its lower case. -/
theorem lowerCharIn_ne_nil (before : List Char) (c : Char) (after : List Char) :
    lowerCharIn before c after ≠ [] := by
  by_cases hdot : c = 'İ'
  · rw [hdot, lowerCharIn, if_neg (by decide), lowerChar_dotted]
    exact List.cons_ne_nil _ _
  · obtain ⟨d, hd, -⟩ := lowerCharIn_settles hdot before after
    rw [hd]
    exact List.cons_ne_nil _ _

/-- A text in lower case is not empty if the text is not. -/
theorem lowerCase_ne_nil {cs : List Char} (h : cs ≠ []) : lowerCase cs ≠ [] := by
  cases cs with
  | nil => exact absurd rfl h
  | cons c rest => exact List.append_ne_nil_of_left_ne_nil (lowerCharIn_ne_nil [] c rest) _

namespace Analyzer

variable {a : Analyzer} {text x : String}

/-- The lexeme of a word is not empty. -/
theorem ne_empty_of_lexeme? {word : List Char} (hword : word ≠ []) (h : a.lexeme? word = some x) :
    x ≠ "" := by
  rw [Ne, ← String.toList_eq_nil_iff]
  cases a with
  | simple =>
      obtain rfl := Option.some.inj h
      rwa [String.toList_ofList]
  | english =>
      rw [lexeme?] at h
      split at h
      · cases h
      · obtain rfl := Option.some.inj h
        rw [String.toList_ofList]
        exact (keeps_stem hword).nonempty

/-- **No lexeme of a text is empty.** -/
theorem ne_empty_of_mem_lexemes (h : x ∈ a.lexemes text) : x ≠ "" := by
  obtain ⟨word, hword, hx⟩ := List.mem_filterMap.mp h
  exact ne_empty_of_lexeme? (lowerCase_ne_nil (isWord_of_mem_words hword).1) hx

/-- No term that is counted in a document is empty. -/
theorem ne_empty_of_mem_documentTerms {term : String × Nat} (h : term ∈ a.documentTerms text) :
    term.1 ≠ "" :=
  ne_empty_of_mem_lexemes (mem_keys_documentTerms.mp (List.mem_map_of_mem h))

/-- No term that is searched for is empty. -/
theorem ne_empty_of_mem_queryTerms (h : x ∈ a.queryTerms text) : x ≠ "" :=
  ne_empty_of_mem_lexemes (mem_queryTerms.mp h)

end Analyzer

end HybridRetrieval
