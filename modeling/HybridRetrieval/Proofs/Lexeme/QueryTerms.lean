import HybridRetrieval.Proofs.Lexeme.DocumentTerms
import HybridRetrieval.Proofs.Lexeme.Words
/-!
# The terms of a query

A query keeps the first occurrence of each lexeme of its text.  Leaving members out beforehand or
afterwards comes to the same (`eraseDups_filter`), so keeping the first occurrences can be followed
one lexeme at a time: no lexeme is kept twice (`nodup_queryTerms`), and they come in the order in
which they first occur (`pairwise_idxOf_queryTerms`).  They are the lexemes that the document counts
(`queryTerms_perm`).
-/

namespace HybridRetrieval

section FirstOccurrences

variable {α : Type} [BEq α] [LawfulBEq α]

/-- Leaving members out commutes with keeping first occurrences. -/
theorem eraseDups_filter (p : α → Bool) :
    (xs : List α) → (xs.filter p).eraseDups = xs.eraseDups.filter p
  | [] => rfl
  | x :: rest => by
      have ih := eraseDups_filter p (rest.filter fun y => !y == x)
      rw [List.eraseDups_cons]
      by_cases hx : p x = true
      · rw [List.filter_cons_of_pos hx, List.filter_cons_of_pos hx, List.eraseDups_cons, ← ih,
          List.filter_filter, List.filter_filter]
        simp only [Bool.and_comm]
      · rw [List.filter_cons_of_neg hx, List.filter_cons_of_neg hx, ← ih, List.filter_filter]
        congr 1
        -- what is kept is not `x`, which is left out
        refine List.filter_congr fun y _ => ?_
        by_cases hyx : y = x
        · subst hyx
          simp [hx]
        · simp [hyx]
termination_by xs => xs.length
decreasing_by exact Nat.lt_succ_of_le (List.length_filter_le _ _)

/-- The first member is kept, and later ones unless they equal it. -/
theorem eraseDups_cons_filter (x : α) (rest : List α) :
    (x :: rest).eraseDups = x :: rest.eraseDups.filter fun y => !y == x := by
  rw [List.eraseDups_cons, eraseDups_filter]

/-- Behind others those members are kept that are not among them. -/
theorem eraseDups_append_filter (xs ys : List α) :
    (xs ++ ys).eraseDups =
      xs.eraseDups ++ ys.eraseDups.filter fun y => !xs.eraseDups.contains y := by
  rw [List.eraseDups_append, List.removeAll, eraseDups_filter]
  congr 1
  refine List.filter_congr fun y _ => ?_
  rw [Bool.eq_iff_iff]
  simp

/-- First occurrences are kept in their order. -/
theorem pairwise_idxOf_eraseDups (xs : List α) :
    xs.eraseDups.Pairwise fun x y => xs.idxOf x < xs.idxOf y := by
  induction xs with
  | nil => exact List.Pairwise.nil
  | cons x rest ih =>
      have hne : ∀ y ∈ rest.eraseDups.filter (fun y => !y == x), x ≠ y := by
        intro y hy heq
        simpa [heq] using (List.mem_filter.mp hy).2
      rw [eraseDups_cons_filter, List.pairwise_cons]
      constructor
      · intro y hy
        rw [List.idxOf_cons_self, List.idxOf_cons_ne _ (hne y hy)]
        exact Nat.succ_pos _
      · apply (ih.sublist List.filter_sublist).imp_of_mem
        intro y z hy hz hlt
        rw [List.idxOf_cons_ne _ (hne y hy), List.idxOf_cons_ne _ (hne z hz)]
        exact Nat.succ_lt_succ hlt

end FirstOccurrences

namespace Analyzer

/-- Query terms come in the order in which they first occur in the text. -/
theorem pairwise_idxOf_queryTerms (a : Analyzer) (text : String) :
    (a.queryTerms text).Pairwise fun x y =>
      (a.lexemes text).idxOf x < (a.lexemes text).idxOf y :=
  pairwise_idxOf_eraseDups (a.lexemes text)

/-- No query term comes twice. -/
theorem nodup_queryTerms (a : Analyzer) (text : String) : (a.queryTerms text).Nodup := by
  refine (pairwise_idxOf_queryTerms a text).imp fun hlt heq => ?_
  rw [heq] at hlt
  exact Nat.lt_irrefl _ hlt

/-- **A query asks for what a document counts.** -/
theorem queryTerms_perm (a : Analyzer) (text : String) :
    (a.queryTerms text).Perm ((a.documentTerms text).map Prod.fst) := by
  rw [List.perm_ext_iff_of_nodup (nodup_queryTerms a text) (nodup_keys_documentTerms a text)]
  intro x
  rw [mem_queryTerms, mem_keys_documentTerms]

end Analyzer

end HybridRetrieval
