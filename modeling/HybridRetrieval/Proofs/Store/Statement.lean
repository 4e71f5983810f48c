import HybridRetrieval.Store.Statement
/-!
# Which searches fit into a statement

The first filter that is conjoined to a condition decides how deep the condition is, and each one
after it adds a level (`StatementSize.withFilters_of_deep`, `withFilters_le_iff`).  So a dense
search takes up to 996 filters (`accepted_dense_iff`).  A sparse search takes up to 995 and, without
any, fewer than 32766 lexemes; each filter takes the place of two (`accepted_sparse_iff`).
-/

namespace HybridRetrieval.StatementSize

/-- The terms of the filters are conjoined from the first to the last. -/
theorem withFilters_cons (first : Nat) (f : Filter) (rest : List Filter) :
    withFilters first (f :: rest) = withFilters (conjoin first filterDepth) rest := rfl

/-- A condition as deep as a filter gets deeper by one with each filter. -/
theorem withFilters_of_deep {depth : Nat} (h : filterDepth ≤ depth) (filters : List Filter) :
    withFilters depth filters = depth + filters.length := by
  induction filters generalizing depth with
  | nil => rfl
  | cons f rest ih =>
      have hdeeper : conjoin depth filterDepth = depth + 1 := by rw [conjoin, Nat.max_eq_left h]
      rw [withFilters_cons, hdeeper, ih (Nat.le_succ_of_le h), List.length_cons]
      omega

/-- A condition that starts with something less deep is as deep as its filters make it. -/
theorem withFilters_le_iff {first depth : Nat} (hfirst : first ≤ filterDepth)
    (hdepth : filterDepth ≤ depth) (filters : List Filter) :
    withFilters first filters ≤ depth ↔ filterDepth + filters.length ≤ depth := by
  cases filters with
  | nil => exact iff_of_true (Nat.le_trans hfirst hdepth) hdepth
  | cons f rest =>
      have hdeeper : conjoin first filterDepth = filterDepth + 1 := by
        rw [conjoin, Nat.max_eq_right hfirst]
      rw [withFilters_cons, hdeeper, withFilters_of_deep (Nat.le_succ _), List.length_cons]
      omega

/-- **A dense search** fits into a statement with up to 996 filters. -/
theorem accepted_dense_iff {filters : List Filter} :
    (dense filters).Accepted ↔ filters.length ≤ 996 := by
  have hdepth : withFilters 2 filters ≤ 1000 ↔ filterDepth + filters.length ≤ 1000 :=
    withFilters_le_iff (by decide) (by decide) filters
  simp only [Accepted, dense, hdepth, maxValues, maxDepth, filterDepth]
  omega

/-- **A sparse search** fits into a statement with up to 995 filters, if twice their number and the
number of lexemes stay below the values that can be bound. -/
theorem accepted_sparse_iff {terms : List String} {filters : List Filter} :
    (sparse terms filters).Accepted ↔
      terms.length + 2 * filters.length < maxValues ∧ filters.length ≤ 995 := by
  have hjoined : ∀ depth, conjoin comparisonDepth depth ≤ maxDepth ↔ depth ≤ 999 := by
    intro depth
    simp only [conjoin, comparisonDepth, maxDepth]
    omega
  have hdepth : withFilters comparisonDepth filters ≤ 999 ↔ filterDepth + filters.length ≤ 999 :=
    withFilters_le_iff (by decide) (by decide) filters
  simp only [Accepted, sparse, hjoined, hdepth, maxValues, filterDepth]
  omega

/-- Without filters only the lexemes count. -/
theorem accepted_sparse_nil_iff {terms : List String} :
    (sparse terms []).Accepted ↔ terms.length < maxValues := by
  simp [accepted_sparse_iff]

/-- For a sparse search only the number of the lexemes counts. -/
theorem sparse_congr {terms others : List String} (h : terms.length = others.length)
    (filters : List Filter) : sparse terms filters = sparse others filters := by
  rw [sparse, sparse, h]

/-! ## Preparing -/

variable {size : StatementSize}

theorem prepare_of_accepted (h : size.Accepted) : size.prepare = .ok () := if_pos h

theorem prepare_of_not_accepted (h : ¬ size.Accepted) : size.prepare = .error .storage := if_neg h

end HybridRetrieval.StatementSize
