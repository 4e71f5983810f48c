import HybridRetrieval.Proofs.Query.Fusion
/-!
# Results restricted to some nodes

Leaving out some members of a list before it is sorted or after it makes no difference, because the
sort is stable (`filter_mergeSort`).  Leaving out nodes before two results are fused or after it
makes none either, as long as the choice looks at the identifier alone
(`QueryResult.fuse_restrict`).
-/

namespace HybridRetrieval

section Sorting

variable {α : Type} {le : α → α → Bool}
  (trans : ∀ a b c : α, le a b = true → le b c = true → le a c = true)
  (total : ∀ a b : α, (le a b || le b a) = true)

/-- A place is determined by what stands before it and what stands behind it. -/
theorem append_inj_of_place {a : α} {xs ys xs' ys' : List α} (h : xs ++ ys = xs' ++ ys')
    (hxs : ∀ b ∈ xs, (!le a b) = true) (hys : ∀ b ∈ ys, le a b = true)
    (hxs' : ∀ b ∈ xs', (!le a b) = true) (hys' : ∀ b ∈ ys', le a b = true) :
    xs = xs' ∧ ys = ys' := by
  have hfront : ∀ {us vs : List α}, (∀ b ∈ us, (!le a b) = true) → (∀ b ∈ vs, le a b = true) →
      (us ++ vs).takeWhile (fun b => !le a b) = us := by
    intro us vs hus hvs
    rw [List.takeWhile_append_of_pos hus]
    cases vs with
    | nil => simp
    | cons b rest => simp [hvs b List.mem_cons_self]
  have hsame : xs = xs' := by
    rw [← hfront hxs hys, h, hfront hxs' hys']
  subst hsame
  exact ⟨rfl, List.append_cancel_left h⟩

include trans total

/-- **Sorting and leaving out members commute.** -/
theorem filter_mergeSort (p : α → Bool) (xs : List α) :
    (xs.filter p).mergeSort le = (xs.mergeSort le).filter p := by
  induction xs with
  | nil => simp
  | cons a rest ih =>
      obtain ⟨front, back, hsorted, hrest, hfront⟩ := List.mergeSort_cons trans total a rest
      rw [hsorted, List.filter_append, List.filter_cons]
      rw [hrest, List.filter_append] at ih
      cases hp : p a with
      | false => simpa [List.filter_cons, hp] using ih
      | true =>
          obtain ⟨front', back', hsorted', hrest', hfront'⟩ :=
            List.mergeSort_cons trans total a (rest.filter p)
          -- the sorted list has one place for `a`, and both sides put it there
          have hbehind : ∀ {us vs ws : List α}, ws.mergeSort le = us ++ a :: vs →
              ∀ b ∈ vs, le a b = true := by
            intro us vs ws h b hb
            have hordered := List.pairwise_mergeSort trans total ws
            rw [h] at hordered
            exact List.rel_of_pairwise_cons (List.pairwise_append.mp hordered).2.1 hb
          obtain ⟨rfl, rfl⟩ := append_inj_of_place (hrest'.symm.trans ih) hfront' (hbehind hsorted')
            (fun b hb => hfront b (List.mem_of_mem_filter hb))
            (fun b hb => hbehind hsorted b (List.mem_of_mem_filter hb))
          rw [List.filter_cons, hp, if_pos rfl, hsorted', if_pos rfl]

end Sorting

/-- Keeping first hits commutes with a choice among nodes. -/
theorem firstHits_filter (p : String → Bool) (hits : List Hit) :
    firstHits (hits.filter fun hit => p hit.1.id) =
      (firstHits hits).filter fun hit => p hit.1.id := by
  induction hits with
  | nil => rfl
  | cons hit rest ih =>
      rw [firstHits, List.filter_cons, List.filter_cons]
      cases hp : p hit.1.id with
      | false =>
          -- what a first hit suppresses has its identifier, so the choice leaves it out as well
          rw [if_neg Bool.false_ne_true, if_neg Bool.false_ne_true, ih, List.filter_filter]
          refine List.filter_congr fun later _ => ?_
          by_cases heq : later.1.id = hit.1.id
          · simp [heq, hp]
          · simp [heq]
      | true =>
          rw [if_pos rfl, if_pos rfl, firstHits, ih, List.filter_filter, List.filter_filter]
          simp only [Bool.and_comm]

namespace QueryResult

/-- The part of a result that lists the nodes with certain identifiers. -/
def restrict (r : QueryResult) (p : String → Bool) : QueryResult :=
  .ofHits (r.hits.filter fun hit => p hit.1.id)

theorem restrict_ofHits (hits : List Hit) (p : String → Bool) :
    (ofHits hits).restrict p = .ofHits (hits.filter fun hit => p hit.1.id) := by
  rw [restrict, hits_ofHits]

/-- **Fusion commutes with the restriction** of both results. -/
theorem fuse_restrict (first second : QueryResult) (p : String → Bool) :
    fuse (first.restrict p) (second.restrict p) = (fuse first second).restrict p := by
  rw [restrict, restrict, fuse, hits_ofHits, hits_ofHits, ← List.filter_append, firstHits_filter,
    fuse, restrict_ofHits]

end QueryResult

end HybridRetrieval
