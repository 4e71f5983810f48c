import HybridRetrieval.Proofs.Lexeme.QueryTerms
/-!
# Passages of a text

Passages with separators between them are analyzed one by one: no word goes across a separator, so
the lexemes of the whole are those of the passages, in order (`lexemes_append`, `lexemes_of_joins`).
What is counted of the whole is then the sum of what is counted of the passages, in whatever order
they come, and a query for the whole asks for the terms of the first passage and then for what the
others add (`analysis_of_passages`).
-/

namespace HybridRetrieval

/-- A text of one or more characters that are neither letters nor numbers. -/
def IsSeparator (sep : String) : Prop :=
  sep ≠ "" ∧ ∀ c ∈ sep.toList, isWordChar c = false

instance (sep : String) : Decidable (IsSeparator sep) :=
  decidable_of_iff (sep ≠ "" ∧ (sep.toList.all fun c => !isWordChar c) = true)
    (and_congr_right fun _ => by simp)

/-- The text consists of the passages in their order, any two neighbours with a separator between
them. -/
inductive Joins : List String → String → Prop where
  | one (passage : String) : Joins [passage] passage
  | more {passages : List String} {text : String} (passage : String) {sep : String}
      (hsep : IsSeparator sep) (rest : Joins passages text) :
      Joins (passage :: passages) (passage ++ sep ++ text)

/-- The words of two texts with a separator between them. -/
theorem words_of_separated {sep : String} (h : IsSeparator sep) (first second : String) :
    words (first ++ sep ++ second).toList = words first.toList ++ words second.toList := by
  obtain ⟨hne, hbreak⟩ := h
  obtain ⟨c, more, hsep⟩ : ∃ c more, sep.toList = c :: more :=
    List.exists_cons_of_ne_nil fun hnil => hne (String.toList_eq_nil_iff.mp hnil)
  rw [hsep] at hbreak
  have htext : (first ++ sep ++ second).toList =
      first.toList ++ c :: (more ++ second.toList) := by
    simp [String.toList_append, hsep]
  rw [htext, words_append (hbreak c List.mem_cons_self),
    words_of_separators fun d hd => hbreak d (List.mem_cons_of_mem _ hd)]

namespace Analyzer

/-- **The lexemes of two texts with a separator between them** are those of the first and then those
of the second. -/
theorem lexemes_append (a : Analyzer) {sep : String} (h : IsSeparator sep)
    (first second : String) :
    a.lexemes (first ++ sep ++ second) = a.lexemes first ++ a.lexemes second := by
  rw [lexemes, words_of_separated h, List.filterMap_append]
  rfl

/-- The lexemes of joined passages are those of the passages. -/
theorem lexemes_of_joins (a : Analyzer) {passages : List String} {text : String}
    (h : Joins passages text) : a.lexemes text = passages.flatMap a.lexemes := by
  induction h with
  | one passage => simp
  | more passage hsep _ ih => rw [lexemes_append a hsep, ih, List.flatMap_cons]

end Analyzer

/-- **Analysis distributes over passages.**  The lexemes of two texts with a separator between them
are those of the first followed by those of the second.  So their terms are counted with the sum of
the frequencies, and a query asks first for the terms of the first text and then for those of the
second that are not among them.  However many passages are joined, with whatever separators, their
order makes no difference to the terms that are counted. -/
theorem analysis_of_passages (a : Analyzer) :
    (∀ first sep second, IsSeparator sep →
      a.lexemes (first ++ sep ++ second) = a.lexemes first ++ a.lexemes second ∧
      (∀ x n, (x, n) ∈ a.documentTerms (first ++ sep ++ second) ↔ 0 < n ∧
        n = Analyzer.frequency (a.documentTerms first) x +
          Analyzer.frequency (a.documentTerms second) x) ∧
      a.queryTerms (first ++ sep ++ second) = a.queryTerms first ++
        (a.queryTerms second).filter fun x => !(a.queryTerms first).contains x) ∧
    ∀ passages others text other, Joins passages text → Joins others other →
      passages.Perm others → a.documentTerms text = a.documentTerms other := by
  constructor
  · intro first sep second hsep
    have hlexemes := a.lexemes_append hsep first second
    refine ⟨hlexemes, ?_, ?_⟩
    · intro x n
      rw [Analyzer.mem_documentTerms_iff, hlexemes, List.count_append,
        Analyzer.frequency_documentTerms, Analyzer.frequency_documentTerms]
      exact and_congr_right fun _ => eq_comm
    · rw [Analyzer.queryTerms, hlexemes, eraseDups_append_filter]
      rfl
  · intro passages others text other htext hother hperm
    apply Analyzer.documentTerms_of_perm
    rw [a.lexemes_of_joins htext, a.lexemes_of_joins hother]
    exact hperm.flatMap_right _

/-- Two passages about foxes, joined either way. -/
theorem analysis_of_passages_aboutFoxes :
    Analyzer.english.lexemes ("The red fox" ++ ", " ++ "foxes and hens") =
        ["red", "fox"] ++ ["fox", "hen"] ∧
      ("fox", 2) ∈ Analyzer.english.documentTerms ("The red fox" ++ ", " ++ "foxes and hens") ∧
      Analyzer.english.queryTerms ("The red fox" ++ ", " ++ "foxes and hens") =
        ["red", "fox"] ++ ["hen"] ∧
      Analyzer.english.documentTerms ("The red fox" ++ ", " ++ "foxes and hens") =
        Analyzer.english.documentTerms ("foxes and hens" ++ " - " ++ "The red fox") := by
  have hcomma : IsSeparator ", " := by decide
  have hdash : IsSeparator " - " := by decide
  have hfirst : Analyzer.english.lexemes "The red fox" = ["red", "fox"] := by decide +kernel
  have hsecond : Analyzer.english.lexemes "foxes and hens" = ["fox", "hen"] := by decide +kernel
  obtain ⟨hjoined, horder⟩ := analysis_of_passages .english
  obtain ⟨hlexemes, hterms, hquery⟩ := hjoined "The red fox" ", " "foxes and hens" hcomma
  refine ⟨?_, (hterms "fox" 2).mpr ?_, ?_, ?_⟩
  · rw [hlexemes, hfirst, hsecond]
  · rw [Analyzer.frequency_documentTerms, Analyzer.frequency_documentTerms, hfirst, hsecond]
    decide
  · rw [hquery, Analyzer.queryTerms, Analyzer.queryTerms, hfirst, hsecond]
    decide
  · exact horder _ _ _ _ (.more _ hcomma (.one _)) (.more _ hdash (.one _)) (.swap _ _ _)

end HybridRetrieval
