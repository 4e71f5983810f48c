import HybridRetrieval.Query.Fusion
import Mathlib.Data.List.Perm.Subperm
/-!
# What fusion makes of two results

A result is a *listing* if its three lists go together and no identifier occurs twice
(`QueryResult.IsListing`).  Of two listings fusion keeps the first as it is and adds those hits of
the second whose identifiers the first does not have (`QueryResult.IsFusion`, `isFusion_fuse`).
-/

namespace HybridRetrieval

/-- The identifiers of hits. -/
def hitIds (hits : List Hit) : List String := hits.map fun hit => hit.1.id

theorem hitIds_cons (hit : Hit) (rest : List Hit) :
    hitIds (hit :: rest) = hit.1.id :: hitIds rest := rfl

theorem hitIds_append (xs ys : List Hit) : hitIds (xs ++ ys) = hitIds xs ++ hitIds ys :=
  List.map_append

theorem mem_hitIds {hits : List Hit} {hit : Hit} (h : hit ∈ hits) : hit.1.id ∈ hitIds hits :=
  List.mem_map.mpr ⟨hit, h, rfl⟩

/-! ## Keeping first hits -/

/-- Hits of distinct nodes are all kept. -/
theorem firstHits_of_nodup {hits : List Hit} (h : (hitIds hits).Nodup) : firstHits hits = hits := by
  induction hits with
  | nil => rfl
  | cons hit rest ih =>
      rw [hitIds_cons] at h
      obtain ⟨hnew, hrest⟩ := List.nodup_cons.mp h
      rw [firstHits, ih hrest]
      congr 1
      refine List.filter_eq_self.mpr fun later hlater => ?_
      refine decide_eq_true fun heq => hnew ?_
      rw [← heq]
      exact mem_hitIds hlater

/-- Only hits are kept. -/
theorem firstHits_subset (hits : List Hit) : firstHits hits ⊆ hits := by
  induction hits with
  | nil => exact List.Subset.refl _
  | cons hit rest ih =>
      intro kept hkept
      rcases List.mem_cons.mp hkept with rfl | hlater
      · exact List.mem_cons_self
      · exact List.mem_cons_of_mem _ (ih (List.mem_of_mem_filter hlater))

/-- Of two lists the hits of the second are kept whose nodes the first does not have. -/
theorem firstHits_append (xs ys : List Hit) :
    firstHits (xs ++ ys) =
      firstHits xs ++ (firstHits ys).filter fun hit => hit.1.id ∉ hitIds xs := by
  induction xs with
  | nil => simp [firstHits, hitIds]
  | cons hit rest ih =>
      rw [List.cons_append, firstHits, ih, firstHits, List.filter_append, List.filter_filter,
        List.cons_append]
      congr 2
      apply List.filter_congr
      intro later _
      simp [hitIds_cons]

/-! ## Results -/

namespace QueryResult

/-- The hits of a result that was made of hits. -/
@[simp] theorem hits_ofHits (hits : List Hit) : (ofHits hits).hits = hits := by
  rw [ofHits, QueryResult.hits, List.zip_map']
  exact List.map_id hits

@[simp] theorem ids_ofHits (hits : List Hit) : (ofHits hits).ids = hitIds hits := rfl

@[simp] theorem size_ofHits (hits : List Hit) : (ofHits hits).size = hits.length :=
  List.length_map _

/-- The nodes of a fusion are nodes of the two results. -/
theorem mem_nodes_fuse {first second : QueryResult} {node : Node}
    (h : node ∈ (fuse first second).nodes) : node ∈ first.nodes ∨ node ∈ second.nodes := by
  obtain ⟨⟨node, x⟩, hhit, rfl⟩ := List.mem_map.mp h
  refine (List.mem_append.mp (firstHits_subset _ hhit)).imp ?_ ?_
  · exact fun hmem => (List.of_mem_zip hmem).1
  · exact fun hmem => (List.of_mem_zip hmem).1

/-- The lists of a result go together, no identifier occurs twice, and there are at most so many
rows. -/
structure IsListing (r : QueryResult) (limit : Nat) : Prop where
  ids : r.ids = r.nodes.map Node.id
  similarities : r.similarities.length = r.nodes.length
  distinct : r.ids.Nodup
  bound : r.size ≤ limit

/-- The hits that a second result adds to a first one. -/
def added (first second : QueryResult) : List Hit :=
  second.hits.filter fun hit => hit.1.id ∉ first.ids

/-- The result is a first one and then what a second one adds to it. -/
structure IsFusion (r first second : QueryResult) : Prop where
  nodes : r.nodes = first.nodes ++ (first.added second).map fun hit => hit.1
  similarities : r.similarities = first.similarities ++ (first.added second).map fun hit => hit.2
  ids : r.ids = first.ids ++ (first.added second).map fun hit => hit.1.id
  listing : r.IsListing (first.size + second.size)
  least : max first.size second.size ≤ r.size

variable {first second : QueryResult} {m n : Nat}

/-- A listing is made of hits. -/
theorem IsListing.eq_ofHits (h : first.IsListing n) : first = ofHits first.hits := by
  have hnodes : first.hits.map (·.1) = first.nodes :=
    List.map_fst_zip (Nat.le_of_eq h.similarities.symm)
  ext1
  · exact hnodes.symm
  · exact (List.map_snd_zip (Nat.le_of_eq h.similarities)).symm
  · rw [h.ids, ← hnodes, ids_ofHits, hitIds, List.map_map]
    rfl

/-- Hits of distinct nodes make a listing. -/
theorem isListing_ofHits {hits : List Hit} (h : (hitIds hits).Nodup) (hbound : hits.length ≤ n) :
    (ofHits hits).IsListing n where
  ids := by simp [ofHits]
  similarities := by simp [ofHits]
  distinct := h
  bound := by rwa [size_ofHits]

/-- **Fusion of two listings** is the first one and what the second one adds to it. -/
theorem isFusion_fuse (hfirst : first.IsListing m) (hsecond : second.IsListing n) :
    (fuse first second).IsFusion first second := by
  rw [hfirst.eq_ofHits, hsecond.eq_ofHits] at *
  generalize first.hits = xs at *
  generalize second.hits = ys at *
  have hxs : (hitIds xs).Nodup := hfirst.distinct
  have hys : (hitIds ys).Nodup := hsecond.distinct
  have hadded : (ofHits xs).added (ofHits ys) = ys.filter fun hit => hit.1.id ∉ hitIds xs := by
    rw [added, hits_ofHits, ids_ofHits]
  have hfuse : fuse (ofHits xs) (ofHits ys) =
      ofHits (xs ++ ys.filter fun hit => hit.1.id ∉ hitIds xs) := by
    rw [fuse, hits_ofHits, hits_ofHits, firstHits_append, firstHits_of_nodup hxs,
      firstHits_of_nodup hys]
  have hdistinct : (hitIds (xs ++ ys.filter fun hit => hit.1.id ∉ hitIds xs)).Nodup := by
    rw [hitIds_append]
    refine List.nodup_append.mpr ⟨hxs, hys.sublist (List.filter_sublist.map _), ?_⟩
    rintro id hid _ hlater rfl
    obtain ⟨hit, hhit, rfl⟩ := List.mem_map.mp hlater
    exact of_decide_eq_true (List.mem_filter.mp hhit).2 hid
  rw [hfuse]
  refine ⟨?_, ?_, ?_, isListing_ofHits hdistinct ?_, ?_⟩
  · rw [hadded]
    exact List.map_append
  · rw [hadded]
    exact List.map_append
  · rw [hadded, ids_ofHits, hitIds_append]
    rfl
  · simpa using List.length_filter_le _ ys
  · rw [size_ofHits, size_ofHits, size_ofHits, Nat.max_le]
    refine ⟨by simp, ?_⟩
    -- every identifier of the second is there, in the first or as an addition
    have hsubset : hitIds ys ⊆ hitIds (xs ++ ys.filter fun hit => hit.1.id ∉ hitIds xs) := by
      intro id hid
      rw [hitIds_append, List.mem_append]
      by_cases hold : id ∈ hitIds xs
      · exact Or.inl hold
      · obtain ⟨hit, hhit, rfl⟩ := List.mem_map.mp hid
        exact Or.inr (mem_hitIds (List.mem_filter.mpr ⟨hhit, decide_eq_true hold⟩))
    simpa [hitIds] using (hys.subperm hsubset).length_le

end QueryResult

end HybridRetrieval
