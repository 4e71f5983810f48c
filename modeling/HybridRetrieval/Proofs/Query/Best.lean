import Mathlib.Data.List.Perm.Subperm
/-!
# The best of a list

Members of a list are ordered by a key, the smaller the better, and members with the same key by
their place in the list (`Precedes`).  `IsBest` says what it means for a second list to hold the
best `k` of a first one in this order: as many as there are, in order, and none left out that
precedes one that is in.  Sorting by the key and cutting off (`bestOf`) gives exactly that
(`isBest_bestOf`), because the sort is stable.
-/

namespace HybridRetrieval

variable {α : Type}

/-- `a` has the smaller key, or the same key and the earlier place in the list. -/
def Precedes (key : α → Int) (xs : List α) (a b : α) : Prop :=
  key a < key b ∨ key a = key b ∧ [a, b].Sublist xs

/-- The second list holds the best `k` of the first, best first. -/
structure IsBest (key : α → Int) (k : Nat) (xs found : List α) : Prop where
  length : found.length = min k xs.length
  nodup : found.Nodup
  subset : found ⊆ xs
  sorted : found.Pairwise (Precedes key xs)
  leftOut : ∀ x ∈ xs, x ∉ found → ∀ y ∈ found, Precedes key xs y x

/-- With room for all of them, the best are all, in another order. -/
theorem IsBest.perm {key : α → Int} {k : Nat} {xs found : List α} (h : IsBest key k xs found)
    (hroom : xs.length ≤ k) : found.Perm xs := by
  refine (h.nodup.subperm h.subset).perm_of_length_le ?_
  rw [h.length]
  omega

/-- Of two members of a list one stands before the other. -/
theorem pair_sublist_or {a b : α} {xs : List α} (ha : a ∈ xs) (hb : b ∈ xs) (hne : a ≠ b) :
    [a, b].Sublist xs ∨ [b, a].Sublist xs := by
  induction xs with
  | nil => cases ha
  | cons x rest ih =>
      rcases List.mem_cons.mp ha with rfl | harest
      · have hbrest : b ∈ rest := (List.mem_cons.mp hb).resolve_left (Ne.symm hne)
        exact Or.inl (List.Sublist.cons_cons _ (List.singleton_sublist.mpr hbrest))
      · rcases List.mem_cons.mp hb with rfl | hbrest
        · exact Or.inr (List.Sublist.cons_cons _ (List.singleton_sublist.mpr harest))
        · exact (ih harest hbrest).imp (List.Sublist.cons _) (List.Sublist.cons _)

/-- Without repetitions only one of two members stands before the other. -/
theorem not_pair_sublist {a b : α} {xs : List α} (hdistinct : xs.Nodup) (h : [a, b].Sublist xs) :
    ¬ [b, a].Sublist xs := by
  induction xs with
  | nil => cases h
  | cons x rest ih =>
      obtain ⟨hx, hrest⟩ := List.nodup_cons.mp hdistinct
      intro h'
      cases h with
      | cons _ h =>
          cases h' with
          | cons _ h' => exact ih hrest h h'
          | cons_cons _ _ => exact hx (h.subset (by simp))
      | cons_cons _ h =>
          cases h' with
          | cons _ h' => exact hx (h'.subset (by simp))
          | cons_cons _ _ => exact hx (h.subset (by simp))

/-- Sorting by the key puts the members in order: ties keep their places. -/
theorem pairwise_mergeSort_precedes (key : α → Int) {xs : List α} (hdistinct : xs.Nodup) :
    (xs.mergeSort fun a b => decide (key a ≤ key b)).Pairwise (Precedes key xs) := by
  have htrans : ∀ a b c : α, decide (key a ≤ key b) = true → decide (key b ≤ key c) = true →
      decide (key a ≤ key c) = true := by
    intro a b c hab hbc
    simp only [decide_eq_true_eq] at hab hbc ⊢
    omega
  have htotal : ∀ a b : α, (decide (key a ≤ key b) || decide (key b ≤ key a)) = true := by
    intro a b
    simp only [Bool.or_eq_true, decide_eq_true_eq]
    omega
  have hsorted := List.pairwise_mergeSort htrans htotal xs
  have hperm := List.mergeSort_perm xs fun a b => decide (key a ≤ key b)
  rw [List.pairwise_iff_forall_sublist] at hsorted ⊢
  intro a b hab
  have hle : key a ≤ key b := of_decide_eq_true (hsorted hab)
  rcases Int.lt_or_eq_of_le hle with hlt | heq
  · exact Or.inl hlt
  · have hne : a ≠ b := (List.pairwise_iff_forall_sublist.mp (hperm.nodup_iff.mpr hdistinct)) hab
    have ha : a ∈ xs := hperm.mem_iff.mp (hab.subset (by simp))
    have hb : b ∈ xs := hperm.mem_iff.mp (hab.subset (by simp))
    rcases pair_sublist_or ha hb hne with hbefore | hafter
    · exact Or.inr ⟨heq, hbefore⟩
    · -- the sort would have kept `b` before `a`
      have hkept := List.pair_sublist_mergeSort htrans htotal
        (decide_eq_true (Int.le_of_eq heq.symm)) hafter
      exact absurd hkept (not_pair_sublist (hperm.nodup_iff.mpr hdistinct) hab)

/-- The first `k` of the list after it is sorted by the key. -/
def bestOf (key : α → Int) (k : Nat) (xs : List α) : List α :=
  (xs.mergeSort fun a b => decide (key a ≤ key b)).take k

theorem mem_of_mem_bestOf {key : α → Int} {k : Nat} {xs : List α} {x : α}
    (h : x ∈ bestOf key k xs) : x ∈ xs :=
  List.mem_mergeSort.mp (List.mem_of_mem_take h)

/-- With room for all of them, the best are all, in another order. -/
theorem bestOf_perm (key : α → Int) {k : Nat} {xs : List α} (h : xs.length ≤ k) :
    (bestOf key k xs).Perm xs := by
  have hperm := List.mergeSort_perm xs fun a b => decide (key a ≤ key b)
  rw [bestOf, List.take_of_length_le (by rwa [hperm.length_eq])]
  exact hperm

/-- A bound that no list of the length reaches makes no difference to the best. -/
theorem bestOf_min (key : α → Int) (k : Nat) {bound : Nat} {xs : List α} (h : xs.length ≤ bound) :
    bestOf key (min k bound) xs = bestOf key k xs := by
  have hperm := List.mergeSort_perm xs fun a b => decide (key a ≤ key b)
  rw [bestOf, bestOf, ← List.take_take, List.take_of_length_le (i := bound)]
  rwa [hperm.length_eq]

/-- **Sorting and cutting off** gives the best. -/
theorem isBest_bestOf (key : α → Int) (k : Nat) {xs : List α} (hdistinct : xs.Nodup) :
    IsBest key k xs (bestOf key k xs) := by
  unfold bestOf
  have hsorted := pairwise_mergeSort_precedes key hdistinct
  have hperm := List.mergeSort_perm xs fun a b => decide (key a ≤ key b)
  generalize (xs.mergeSort fun a b => decide (key a ≤ key b)) = sorted at hsorted hperm
  refine ⟨?_, ?_, ?_, hsorted.sublist (List.take_sublist k sorted), ?_⟩
  · rw [List.length_take, hperm.length_eq]
  · exact (hperm.nodup_iff.mpr hdistinct).sublist (List.take_sublist k sorted)
  · exact fun x hx => hperm.mem_iff.mp (List.mem_of_mem_take hx)
  · intro x hx hout y hy
    have hmem := hperm.mem_iff.mpr hx
    rw [← List.take_append_drop k sorted] at hmem hsorted
    have hdropped := (List.mem_append.mp hmem).resolve_left hout
    exact (List.pairwise_append.mp hsorted).2.2 y hy x hdropped

end HybridRetrieval
