import HybridRetrieval.Proofs.Query.Fusion
import Mathlib.Data.List.Perm.Basic
/-!
# The first hit of every node

Fusion goes through the rows of two results and keeps a row if its node has not come before.  What
that comes to does not mention the way there (`QueryResult.KeepsFirst`): each node of the rows once,
with the similarity of its first row, in the order of the first rows.  Only one result is like that,
and it is the fusion (`eq_fuse_iff`).

The one fact behind the laws of fusion is that rows may be thinned to their first hits beforehand,
in front (`firstHits_firstHits_append`) or at the back (`firstHits_append_firstHits`), and nothing
is lost.  So fusion is associative, fusing a result a second time adds nothing, and the empty result
adds nothing either (`fuse_laws`).
-/

namespace HybridRetrieval

variable {hits xs ys : List Hit}

/-! ## What is kept -/

/-- First hits are some of the hits, in their order. -/
theorem firstHits_sublist (hits : List Hit) : (firstHits hits).Sublist hits := by
  induction hits with
  | nil => exact List.Sublist.refl _
  | cons hit rest ih => exact (List.filter_sublist.trans ih).cons_cons hit

/-- No node is kept twice. -/
theorem nodup_hitIds_firstHits (hits : List Hit) : (hitIds (firstHits hits)).Nodup := by
  induction hits with
  | nil => exact List.nodup_nil
  | cons hit rest ih =>
      rw [firstHits, hitIds_cons, List.nodup_cons]
      constructor
      · intro hmem
        obtain ⟨later, hlater, heq⟩ := List.mem_map.mp hmem
        exact of_decide_eq_true (List.mem_filter.mp hlater).2 heq
      · exact ih.sublist (List.filter_sublist.map _)

/-- No node is lost. -/
theorem mem_hitIds_firstHits {id : String} : id ∈ hitIds (firstHits hits) ↔ id ∈ hitIds hits := by
  induction hits with
  | nil => rfl
  | cons hit rest ih =>
      rw [firstHits, hitIds_cons, hitIds_cons, List.mem_cons, List.mem_cons, ← ih]
      by_cases heq : id = hit.1.id
      · simp [heq]
      · simp only [heq, false_or]
        -- only hits of the first node are left out, and `id` is another one
        constructor
        · intro hmem
          exact (List.filter_sublist.map _).subset hmem
        · intro hmem
          obtain ⟨later, hlater, rfl⟩ := List.mem_map.mp hmem
          exact mem_hitIds (List.mem_filter.mpr ⟨hlater, decide_eq_true heq⟩)

/-- A kept hit is the first one of its node. -/
theorem find?_of_mem_firstHits {hit : Hit} (h : hit ∈ firstHits hits) :
    hits.find? (fun row => row.1.id = hit.1.id) = some hit := by
  induction hits with
  | nil => cases h
  | cons head rest ih =>
      rw [firstHits] at h
      cases h with
      | head => simp
      | tail _ hlater =>
          obtain ⟨hmem, hne⟩ := List.mem_filter.mp hlater
          have hother : head.1.id ≠ hit.1.id := fun heq => of_decide_eq_true hne heq.symm
          rw [List.find?_cons_of_neg (by simpa using hother)]
          exact ih hmem

/-- Nodes are kept in the order in which they first come. -/
theorem pairwise_idxOf_firstHits (hits : List Hit) :
    (hitIds (firstHits hits)).Pairwise fun id later =>
      (hitIds hits).idxOf id < (hitIds hits).idxOf later := by
  induction hits with
  | nil => exact List.Pairwise.nil
  | cons hit rest ih =>
      have hne : ∀ id, id ∈ hitIds ((firstHits rest).filter fun later => later.1.id ≠ hit.1.id) →
          hit.1.id ≠ id := by
        intro id hmem heq
        obtain ⟨later, hlater, rfl⟩ := List.mem_map.mp hmem
        exact of_decide_eq_true (List.mem_filter.mp hlater).2 heq.symm
      rw [firstHits, hitIds_cons, hitIds_cons, List.pairwise_cons]
      constructor
      · intro id hmem
        rw [List.idxOf_cons_self, List.idxOf_cons_ne _ (hne id hmem)]
        exact Nat.succ_pos _
      · have hrest := ih.sublist ((List.filter_sublist (p := fun later : Hit =>
          decide (later.1.id ≠ hit.1.id))).map fun later => later.1.id)
        apply hrest.imp_of_mem
        intro id later hid hlater hlt
        rw [List.idxOf_cons_ne _ (hne id hid), List.idxOf_cons_ne _ (hne later hlater)]
        exact Nat.succ_lt_succ hlt

/-! ## Thinning beforehand -/

/-- First hits are kept once more. -/
theorem firstHits_firstHits (hits : List Hit) : firstHits (firstHits hits) = firstHits hits :=
  firstHits_of_nodup (nodup_hitIds_firstHits hits)

/-- Hits in front may be thinned. -/
theorem firstHits_firstHits_append (xs ys : List Hit) :
    firstHits (firstHits xs ++ ys) = firstHits (xs ++ ys) := by
  rw [firstHits_append, firstHits_append, firstHits_firstHits]
  simp only [mem_hitIds_firstHits]

/-- Hits at the back may be thinned. -/
theorem firstHits_append_firstHits (xs ys : List Hit) :
    firstHits (xs ++ firstHits ys) = firstHits (xs ++ ys) := by
  rw [firstHits_append, firstHits_append, firstHits_firstHits]

/-- Hits of nodes that came before add nothing. -/
theorem firstHits_append_of_subset (h : hitIds ys ⊆ hitIds xs) :
    firstHits (xs ++ ys) = firstHits xs := by
  have hnone : (firstHits ys).filter (fun hit => hit.1.id ∉ hitIds xs) = [] := by
    apply List.filter_eq_nil_iff.mpr
    intro hit hmem hnew
    exact of_decide_eq_true hnew (h (mem_hitIds ((firstHits_sublist ys).subset hmem)))
  rw [firstHits_append, hnone, List.append_nil]

/-! ## Fusion -/

namespace QueryResult

/-- The result lists every node of the rows once, as it first comes. -/
structure KeepsFirst (r : QueryResult) (rows : List Hit) : Prop where
  similarities : r.similarities.length = r.nodes.length
  ids : r.ids = r.nodes.map Node.id
  distinct : r.ids.Nodup
  complete : ∀ id, id ∈ r.ids ↔ id ∈ hitIds rows
  first : ∀ hit ∈ r.hits, rows.find? (fun row => row.1.id = hit.1.id) = some hit
  order : r.ids.Pairwise fun id later => (hitIds rows).idxOf id < (hitIds rows).idxOf later

variable {r other : QueryResult} {rows : List Hit}

/-- A result whose lists go together is made of its hits. -/
theorem KeepsFirst.eq_ofHits (h : r.KeepsFirst rows) : r = ofHits r.hits :=
  IsListing.eq_ofHits ⟨h.ids, h.similarities, h.distinct, Nat.le_refl _⟩

/-- The hits are looked up in the rows by their identifiers. -/
theorem KeepsFirst.hits_eq (h : r.KeepsFirst rows) :
    r.hits = r.ids.filterMap fun id => rows.find? fun row => row.1.id = id := by
  have hids : r.ids = hitIds r.hits := by
    rw [h.eq_ofHits, ids_ofHits, hits_ofHits]
  rw [hids, hitIds, List.filterMap_map]
  have hsome : r.hits.filterMap ((fun id => rows.find? fun row => row.1.id = id) ∘
      fun hit => hit.1.id) = r.hits.filterMap some :=
    List.filterMap_congr h.first
  rw [hsome, List.filterMap_some]

/-- **Only one result** lists the nodes of the rows as they first come. -/
theorem KeepsFirst.unique (h : r.KeepsFirst rows) (h' : other.KeepsFirst rows) : r = other := by
  have hsame : r.ids.Perm other.ids := by
    apply (List.perm_ext_iff_of_nodup h.distinct h'.distinct).mpr
    intro id
    rw [h.complete, h'.complete]
  have hids : r.ids = other.ids := by
    apply hsame.eq_of_pairwise _ h.order h'.order
    intro id later _ _ hlt hgt
    exact absurd (Nat.lt_trans hlt hgt) (Nat.lt_irrefl _)
  rw [h.eq_ofHits, h'.eq_ofHits, h.hits_eq, h'.hits_eq, hids]

/-- First hits make such a result. -/
theorem keepsFirst_ofHits (rows : List Hit) : (ofHits (firstHits rows)).KeepsFirst rows where
  similarities := by simp [ofHits]
  ids := by simp [ofHits]
  distinct := nodup_hitIds_firstHits rows
  complete _ := mem_hitIds_firstHits
  first hit hmem := by
    rw [hits_ofHits] at hmem
    exact find?_of_mem_firstHits hmem
  order := pairwise_idxOf_firstHits rows

end QueryResult

/-- **Fusion keeps every node once, dense rows first.**  A row is a node with the similarity that
stands in its place; where one list is longer than the other, what is left over is no row, and the
identifiers beside the lists count for nothing. -/
theorem eq_fuse_iff (dense sparse r : QueryResult) :
    r = fuse dense sparse ↔ r.KeepsFirst
      (dense.nodes.zip dense.similarities ++ sparse.nodes.zip sparse.similarities) := by
  have hfuse := QueryResult.keepsFirst_ofHits (dense.hits ++ sparse.hits)
  constructor
  · intro heq
    rw [heq]
    exact hfuse
  · intro h
    exact h.unique hfuse

/-! ## Laws -/

section Laws

variable (a b : QueryResult)

theorem hits_fuse : (fuse a b).hits = firstHits (a.hits ++ b.hits) :=
  QueryResult.hits_ofHits _

/-- Three results are fused in either order of the two steps. -/
theorem fuse_assoc (c : QueryResult) : fuse (fuse a b) c = fuse a (fuse b c) := by
  have hleft : firstHits ((fuse a b).hits ++ c.hits) =
      firstHits (a.hits ++ (b.hits ++ c.hits)) := by
    rw [hits_fuse, firstHits_firstHits_append, List.append_assoc]
  have hright : firstHits (a.hits ++ (fuse b c).hits) =
      firstHits (a.hits ++ (b.hits ++ c.hits)) := by
    rw [hits_fuse, firstHits_append_firstHits]
  rw [fuse, hleft, fuse, hright]

/-- A result of nodes that are there already adds nothing. -/
theorem fuse_fuse_of_subset {a b c : QueryResult}
    (h : hitIds c.hits ⊆ hitIds (a.hits ++ b.hits)) : fuse (fuse a b) c = fuse a b := by
  rw [fuse, hits_fuse, firstHits_firstHits_append, firstHits_append_of_subset h]
  rfl

/-- A result is its own first hits exactly if its lists go together and no identifier repeats. -/
theorem ofHits_firstHits_eq_iff {r : QueryResult} :
    .ofHits (firstHits r.hits) = r ↔ r.IsListing r.size := by
  constructor
  · intro heq
    have h := QueryResult.keepsFirst_ofHits r.hits
    rw [heq] at h
    exact ⟨h.ids, h.similarities, h.distinct, Nat.le_refl _⟩
  · intro h
    have hdistinct : (hitIds r.hits).Nodup := by
      have hnodup := h.distinct
      rwa [h.eq_ofHits, QueryResult.ids_ofHits] at hnodup
    rw [firstHits_of_nodup hdistinct, ← h.eq_ofHits]

/-- **The laws of fusion.**  It is associative; a result that has been fused in, in front or at the
back, adds nothing when it comes again; and the empty result adds nothing, in front or at the back,
to exactly those results whose lists go together and repeat no identifier. -/
theorem fuse_laws (c : QueryResult) :
    fuse (fuse a b) c = fuse a (fuse b c) ∧
      fuse (fuse a b) b = fuse a b ∧
      fuse (fuse a b) a = fuse a b ∧
      (fuse {} a = a ↔ a.IsListing a.size) ∧
      (fuse a {} = a ↔ a.IsListing a.size) := by
  have hsuffix : hitIds b.hits ⊆ hitIds (a.hits ++ b.hits) := by
    rw [hitIds_append]
    exact List.subset_append_right _ _
  have hprefix : hitIds a.hits ⊆ hitIds (a.hits ++ b.hits) := by
    rw [hitIds_append]
    exact List.subset_append_left _ _
  have hfront : fuse {} a = .ofHits (firstHits a.hits) := rfl
  have hback : fuse a {} = .ofHits (firstHits a.hits) := by
    have hempty : ({} : QueryResult).hits = [] := rfl
    rw [fuse, hempty, List.append_nil]
  refine ⟨fuse_assoc a b c, fuse_fuse_of_subset hsuffix, fuse_fuse_of_subset hprefix, ?_, ?_⟩
  · rw [hfront, ofHits_firstHits_eq_iff]
  · rw [hback, ofHits_firstHits_eq_iff]

end Laws

end HybridRetrieval
