import HybridRetrieval.Proofs.Session.HybridQuery
import HybridRetrieval.Proofs.Session.NearestNodes
import HybridRetrieval.Proofs.Store.Filtering
/-!
# Filtering a query

In every state, also after edits and also through a closed handle, a query with filters and with
room for all rows answers with the part of its answer without filters that satisfies each filter
alone (`query_filters`).  So the order of the filters and their repetition make no difference, and a
filter more never adds a row.
-/

namespace HybridRetrieval

/-- A restriction that leaves out more leaves fewer hits. -/
theorem QueryResult.restrict_sublist {p p' : String → Bool}
    (himp : ∀ id, p' id = true → p id = true)
    (r : QueryResult) : (r.restrict p').hits.Sublist (r.restrict p).hits := by
  rw [restrict, restrict, hits_ofHits, hits_ofHits]
  exact List.monotone_filter_right _ fun hit => himp hit.1.id

/-- **Filtering commutes with retrieval and fusion**, in every mode.  With room for all rows the
answer with filters is the answer without them, restricted to the nodes whose rows satisfy each of
the filters alone; so lists of the same filters have the same answer, and the answer for more
filters is a part of the answer for fewer. -/
theorem query_filters {start s : Session} (hstart : start.Orderly) (run : Session.EditedRun start s)
    (handle : Store × Nat) (q : Query)
    (hdense : (handle.1.rowsBehind (s.connection handle.2)).length ≤ q.topK)
    (hsparse : (handle.1.rowsBehind (s.connection handle.2)).length ≤ q.effectiveSparseTopK)
    {all : QueryResult} (hall : handle.1.query q.unfiltered (s.connection handle.2) = .ok all) :
    (∀ filters r, handle.1.query (q.withFilters filters) (s.connection handle.2) = .ok r →
      r = all.restrict fun id =>
        filters.all fun f => handle.1.satisfies (s.connection handle.2) f id) ∧
    (∀ first second r r', (∀ f, f ∈ first ↔ f ∈ second) →
      handle.1.query (q.withFilters first) (s.connection handle.2) = .ok r →
      handle.1.query (q.withFilters second) (s.connection handle.2) = .ok r' → r = r') ∧
    ∀ fewer more r r', fewer ⊆ more →
      handle.1.query (q.withFilters fewer) (s.connection handle.2) = .ok r →
      handle.1.query (q.withFilters more) (s.connection handle.2) = .ok r' →
        r'.hits.Sublist r.hits := by
  have hkeyed := run.nodup_rowsBehind hstart handle.1 handle.2
  have hrestrict : ∀ filters r,
      handle.1.query (q.withFilters filters) (s.connection handle.2) = .ok r →
        r = all.restrict fun id =>
          filters.all fun f => handle.1.satisfies (s.connection handle.2) f id :=
    fun filters r h => Store.query_withFilters hkeyed hdense hsparse hall h
  refine ⟨hrestrict, ?_, ?_⟩
  · intro first second r r' hsame h h'
    rw [hrestrict first r h, hrestrict second r' h']
    congr 1
    funext id
    rw [Bool.eq_iff_iff, List.all_eq_true, List.all_eq_true]
    exact forall_congr' fun f => imp_congr_left (hsame f)
  · intro fewer more r r' hsubset h h'
    rw [hrestrict fewer r h, hrestrict more r' h']
    refine QueryResult.restrict_sublist (fun id hmore => ?_) all
    rw [List.all_eq_true] at hmore ⊢
    exact fun f hf => hmore f (hsubset hf)

/-- Asking for all samples by their distance, with the tag and without: the answer with the filter
is the restricted one, and the sample that is tagged otherwise does not satisfy it. -/
theorem query_filters_ofSamples :
    ∃ all r, (Store.ofDimension 2).query (Query.dense [.one, .zero] 3).unfiltered
        ((Session.ofItems 2 Item.samples).connection 0) = .ok all ∧
      (Store.ofDimension 2).query
        ((Query.dense [.one, .zero] 3).withFilters [⟨"tag", .text "red"⟩])
        ((Session.ofItems 2 Item.samples).connection 0) = .ok r ∧
      r = (all.restrict fun id => [⟨"tag", .text "red"⟩].all fun f =>
        (Store.ofDimension 2).satisfies ((Session.ofItems 2 Item.samples).connection 0) f id) ∧
      (Store.ofDimension 2).satisfies ((Session.ofItems 2 Item.samples).connection 0)
        ⟨"tag", .text "red"⟩ "c" = false := by
  have hdb : (Session.ofItems 2 Item.samples).connection 0 = some
      ⟨[("data_t", .data (Item.samples.map DataRow.ofItem))], ["idx_data_t_ref_doc"]⟩ := by rfl
  have hcases : ∀ item ∈ Item.samples, item = .tagged "a" "red" [.zero, .one] ∨
      item = .tagged "b" "red" [.one, .zero] ∨
      item = .tagged "c" "grey" [.one, .zero] := by
    simp [Item.samples]
  have hread : ∀ item ∈ Item.samples, item.node.WithinDepth := by
    intro item hitem
    rcases hcases item hitem with rfl | rfl | rfl <;> exact ⟨by decide +kernel, by decide +kernel⟩
  have hfilters : Filter.Apply [⟨"tag", .text "red"⟩] Item.samples := by
    refine ⟨⟨_, rfl⟩, ?_⟩
    intro item hitem
    rcases hcases item hitem with rfl | rfl | rfl
    · exact ⟨true, by decide +kernel⟩
    · exact ⟨true, by decide +kernel⟩
    · exact ⟨false, by decide +kernel⟩
  have hnumber : ∀ filters, ∀ item ∈ Item.samples.filter (Item.isAdmitted filters),
      (item.distanceTo [.one, .zero]).isNaN = false := by
    intro filters item hitem
    rcases hcases item (List.mem_of_mem_filter hitem) with rfl | rfl | rfl <;> decide +kernel
  have hanswer : ∀ q : Query, q.mode = .dense → q.embedding = some [.one, .zero] →
      Filter.Apply q.filterList Item.samples → (StatementSize.dense q.filterList).Accepted →
      ∃ r, (Store.ofDimension 2).query q
        ((Session.ofItems 2 Item.samples).connection 0) = .ok r := by
    intro q hmode hembedding happly hsize
    rw [hdb, Store.query_dense hmode hembedding rfl happly.checkKeys hsize rfl,
      Store.denseHits_ofItem happly _ hread (hnumber _)]
    exact ⟨_, rfl⟩
  obtain ⟨all, hall⟩ := hanswer (Query.dense [.one, .zero] 3).unfiltered rfl rfl
    (Filter.apply_nil Item.samples) (by decide)
  obtain ⟨r, hr⟩ := hanswer
    ((Query.dense [.one, .zero] 3).withFilters [⟨"tag", .text "red"⟩]) rfl rfl hfilters (by decide)
  have hroom : ((Store.ofDimension 2).rowsBehind
      ((Session.ofItems 2 Item.samples).connection 0)).length ≤ 3 := by
    rw [hdb]
    exact Nat.le_refl 3
  refine ⟨all, r, hall, hr, (query_filters Session.fresh_empty.orderly
    (Session.anyRun_foldl _ _).edited (Store.ofDimension 2, 0) (Query.dense [.one, .zero] 3)
    hroom hroom hall).1 _ _ hr, ?_⟩
  rw [hdb]
  decide +kernel

end HybridRetrieval
