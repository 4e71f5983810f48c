import HybridRetrieval.Proofs.Json.NumberText
import HybridRetrieval.Proofs.Lexeme.Passages
import HybridRetrieval.Proofs.Lexeme.Stems
import HybridRetrieval.Proofs.Text.LowerCase
/-!
# Texts of numerals

How many distinct lexemes can a text have?  A numeral is its own lexeme under both analyzers: it is
in lower case, no stop word has a digit, and every ending that a stem loses has a letter
(`Analyzer.lexeme?_of_digits`).  Distinct numbers have distinct numerals, so the numerals below a
number make a text with as many distinct lexemes (`Analyzer.length_queryTerms_numerals`).
-/

namespace HybridRetrieval

/-- The numerals below a number in order, a blank in front of each. -/
def numerals : Nat → String
  | 0 => ""
  | n + 1 => numerals n ++ " " ++ String.ofList (Decimal.digitChars n)

/-- A digit is a letter or number, and its own lower case. -/
theorem digit_classes {c : Char} (h : c.isDigit = true) :
    isWordChar c = true ∧ lowerChar c = [c] := by
  have hdigits : ∀ code < 58, 48 ≤ code →
      isWordChar (Char.ofNat code) = true ∧ lowerChar (Char.ofNat code) = [Char.ofNat code] := by
    decide
  obtain ⟨hlow, hhigh⟩ := Char.isDigit_iff_toNat.mp h
  have hc := hdigits c.toNat (Nat.lt_succ_of_le hhigh) hlow
  rwa [Char.ofNat_toNat] at hc

/-- Digits make no ending that has a letter. -/
theorem not_endsWith_of_digits {word : List Char} (h : ∀ c ∈ word, c.isDigit = true)
    {ending : List Char} (hletter : ending.any (fun c => !c.isDigit) = true) :
    endsWith word ending = false := by
  obtain ⟨c, hc, hnot⟩ := List.any_eq_true.mp hletter
  rw [← Bool.not_eq_true, endsWith_iff]
  intro hending
  rw [h c (hending.subset hc)] at hnot
  cases hnot

/-- Digits are their own stem. -/
theorem stem_of_digits {word : List Char} (h : ∀ c ∈ word, c.isDigit = true) :
    stem word = word := by
  have hnone : ∀ ending : List Char, ending.any (fun c => !c.isDigit) = true →
      endsWith word ending = false := fun _ => not_endsWith_of_digits h
  have hhissing : hissingPlurals.any (endsWith word) = false := by
    rw [List.any_eq_false]
    intro ending hending
    rw [hnone ending ((List.all_eq_true.mp (by decide : hissingPlurals.all
      (fun ending => ending.any fun c => !c.isDigit) = true)) ending hending)]
    exact Bool.false_ne_true
  simp [stem, hnone ['i', 'e', 's'] (by decide), hhissing, hnone ['s'] (by decide),
    hnone ['i', 'n', 'g'] (by decide), hnone ['e', 'd'] (by decide)]

namespace Analyzer

/-- **A numeral is its own lexeme.** -/
theorem lexeme?_of_digits (a : Analyzer) {word : List Char} (hne : word ≠ [])
    (h : ∀ c ∈ word, c.isDigit = true) : a.lexeme? word = some (String.ofList word) := by
  cases a with
  | simple => rfl
  | english =>
      have hstop : ¬ IsStopWord word := by
        have hall : (englishStopWords.all fun w => w.toList.all fun c => !c.isDigit) = true := by
          decide +kernel
        intro hmem
        obtain ⟨c, rest, rfl⟩ := List.exists_cons_of_ne_nil hne
        have hletters := List.all_eq_true.mp (List.all_eq_true.mp hall _ hmem) c (by simp)
        rw [h c List.mem_cons_self] at hletters
        cases hletters
      rw [lexeme?_of_not_stopWord hstop, stem_of_digits h]

/-- The text of a numeral has it as its only lexeme. -/
theorem lexemes_of_digits (a : Analyzer) {word : List Char} (hne : word ≠ [])
    (h : ∀ c ∈ word, c.isDigit = true) :
    a.lexemes (String.ofList word) = [String.ofList word] := by
  have hword : IsWord word := ⟨hne, fun c hc => (digit_classes (h c hc)).1⟩
  have hlower : lowerCase word = word :=
    lowerCaseAfter_of_settled (fun c hc => (digit_classes (h c hc)).2) []
  rw [lexemes, String.toList_ofList, words_of_isWord hword,
    List.filterMap_cons_some (by rw [hlower, a.lexeme?_of_digits hne h]), List.filterMap_nil]

/-- The lexemes of a text of numerals are the numerals. -/
theorem lexemes_numerals (a : Analyzer) (n : Nat) : a.lexemes (numerals n) =
    (List.range n).map fun k => String.ofList (Decimal.digitChars k) := by
  induction n with
  | zero => rfl
  | succ n ih =>
      have hblank : IsSeparator " " := by decide
      rw [numerals, a.lexemes_append hblank, ih, a.lexemes_of_digits (Decimal.digitChars_ne_nil n)
        (Decimal.isDigits_digitChars n), List.range_succ, List.map_append, List.map_singleton]

/-- **A text can have any number of distinct lexemes**: no numeral comes twice in a text of
numerals. -/
theorem length_queryTerms_numerals (a : Analyzer) (n : Nat) :
    (a.queryTerms (numerals n)).length = n := by
  have hdistinct : (a.lexemes (numerals n)).Nodup := by
    rw [lexemes_numerals]
    refine List.nodup_range.map fun k m hsame => ?_
    rw [← Decimal.ofDigitChars_digitChars k, ← Decimal.ofDigitChars_digitChars m,
      String.ofList_inj.mp hsame]
  have hperm : (a.queryTerms (numerals n)).Perm (a.lexemes (numerals n)) :=
    (List.perm_ext_iff_of_nodup (a.nodup_queryTerms _) hdistinct).mpr fun _ => mem_queryTerms
  rw [hperm.length_eq, lexemes_numerals, List.length_map, List.length_range]

end Analyzer

end HybridRetrieval
