import HybridRetrieval.Proofs.Session.Stocks
import HybridRetrieval.Proofs.Store.DenseQuery
/-!
# The nearest nodes

In every state of every run a dense query through an open handle answers with the nearest of the
stored nodes that its filters admit (`dense_query_best`): as many as there are up to the limit, in
order of distance, ties in the order of the rows.  That is the order in which the nodes first came:
an addition leaves the identifiers that are there in their places and puts a new one after them
(`Item.map_id_upsert`).
-/

namespace HybridRetrieval

/-- **What a dense query answers, in every state of every run.**  Behind an open handle there is a
stock.  If its nodes can be read back, the filters fit into a statement and the distances from the
embedding are numbers, a dense query finds the nearest of the items that the filters admit: each
once, by ascending distance, equal distances in the order of the rows.  A limit beyond the number of
rows may as well be lowered to any bound that is not below it.  With more filters than fit into a
statement the predicate cannot be evaluated, and the query fails. -/
theorem dense_query_best {start s : Session} (hstart : start.Fresh) (run : start.AnyRun s)
    {name : String} {handle : Store × Nat} (hhandle : s.handle? name = some handle) {db : Database}
    (hdb : s.connection handle.2 = some db) :
    ∃ stored, db.table? handle.1.names.data = some (.data stored) ∧ IsStock stored ∧
      ∀ items : List Item, stored = items.map DataRow.ofItem →
        (∀ item ∈ items, item.node.WithinDepth) →
        ∀ (q : Query) (embedding : List Single), q.mode = .dense → q.embedding = some embedding →
          embedding.length = handle.1.params.embedDim → Filter.Apply q.filterList items →
          ((StatementSize.dense q.filterList).Accepted →
            (∀ item ∈ items, item.isAdmitted q.filterList = true →
              (item.distanceTo embedding).isNaN = false) →
            ∃ (result : QueryResult) (found : List Item),
              handle.1.query q (s.connection handle.2) = .ok result ∧
              result.IsTop (fun item => (item.distanceTo embedding).rank)
                (fun item => similarityFor (item.distanceTo embedding)) q.topK
                (items.filter (Item.isAdmitted q.filterList)) found ∧
              ∀ bound, items.length ≤ bound →
                handle.1.query { q with topK := min q.topK bound } (s.connection handle.2) =
                  .ok result) ∧
          (¬ (StatementSize.dense q.filterList).Accepted →
            handle.1.query q (s.connection handle.2) = .error .storage) := by
  obtain ⟨stored, hdata, hstock⟩ := run.stock hstart hhandle hdb
  refine ⟨stored, hdata, hstock, ?_⟩
  rintro items rfl hread q embedding hmode hembedding hlength hfilters
  rw [hdb]
  refine ⟨fun hsize hnumber => ?_, Store.query_dense_of_not_accepted hmode hembedding hlength
    hfilters.checkKeys⟩
  have hhits := fun limit => Store.denseHits_ofItem hfilters limit hread fun item hitem =>
    hnumber item (List.mem_filter.mp hitem).1 (List.mem_filter.mp hitem).2
  refine ⟨_, _, ?_, QueryResult.isTop_bestOf hstock.nodup _ _ q.topK _, ?_⟩
  · rw [Store.query_dense hmode hembedding hlength hfilters.checkKeys hsize hdata, hhits]
    rfl
  · intro bound hbound
    have hroom : (items.filter (Item.isAdmitted q.filterList)).length ≤ bound :=
      (List.length_filter_le _ _).trans hbound
    rw [Store.query_dense (q := { q with topK := min q.topK bound }) hmode hembedding hlength
      hfilters.checkKeys hsize hdata, ← bestOf_min _ q.topK hroom]
    exact congrArg (Except.map QueryResult.ofHits) (hhits (min q.topK bound))

/-- An item with a tag and an embedding. -/
def Item.tagged (id tag : String) (embedding : List Single) : Item :=
  ⟨{ id := id, text := "", metadata := Metadata.empty.insert "tag" (.string tag) }, embedding⟩

/-- Two items at right angles, and one that is tagged otherwise. -/
def Item.samples : List Item :=
  [.tagged "a" "red" [.zero, .one], .tagged "b" "red" [.one, .zero],
    .tagged "c" "grey" [.one, .zero]]

/-- Of the samples that are tagged red the second is nearer. -/
theorem dense_query_best_ofSamples :
    ∃ result, (Store.ofDimension 2).query
        { Query.dense [.one, .zero] 1 with filters := some [⟨"tag", .text "red"⟩] }
        ((Session.ofItems 2 Item.samples).connection 0) = .ok result ∧ result.ids = ["b"] := by
  have hdb : (Session.ofItems 2 Item.samples).connection 0 = some
      ⟨[("data_t", .data (Item.samples.map DataRow.ofItem))], ["idx_data_t_ref_doc"]⟩ := by rfl
  have hhandle : (Session.ofItems 2 Item.samples).handle? "h" = some (.ofDimension 2, 0) := by rfl
  have hcases : ∀ item ∈ Item.samples, item = .tagged "a" "red" [.zero, .one] ∨
      item = .tagged "b" "red" [.one, .zero] ∨
      item = .tagged "c" "grey" [.one, .zero] := by
    simp [Item.samples]
  have hread : ∀ item ∈ Item.samples, item.node.WithinDepth := by
    intro item hitem
    rcases hcases item hitem with rfl | rfl | rfl <;> exact ⟨by decide +kernel, by decide +kernel⟩
  have hfilters : Filter.Apply [⟨"tag", .text "red"⟩] Item.samples := by
    refine ⟨⟨_, rfl⟩, ?_⟩
    intro item hitem
    rcases hcases item hitem with rfl | rfl | rfl
    · exact ⟨true, by decide +kernel⟩
    · exact ⟨true, by decide +kernel⟩
    · exact ⟨false, by decide +kernel⟩
  have hnumber : ∀ item ∈ Item.samples, item.isAdmitted [⟨"tag", .text "red"⟩] = true →
      (item.distanceTo [.one, .zero]).isNaN = false := by
    intro item hitem _
    rcases hcases item hitem with rfl | rfl | rfl <;> decide +kernel
  obtain ⟨stored, hstored, -, hquery⟩ :=
    dense_query_best Session.fresh_empty (Session.anyRun_foldl _ _) hhandle hdb
  obtain ⟨result, found, hresult, htop, -⟩ := (hquery Item.samples
    (Table.data.inj (Option.some.inj hstored)).symm hread
    { Query.dense [.one, .zero] 1 with filters := some [⟨"tag", .text "red"⟩] } [.one, .zero]
    rfl rfl rfl hfilters).1 (by decide) hnumber
  have hcandidates : Item.samples.filter (Item.isAdmitted [⟨"tag", .text "red"⟩]) =
      [.tagged "a" "red" [.zero, .one], .tagged "b" "red" [.one, .zero]] := by
    have hfirst : (Item.tagged "a" "red" [.zero, .one]).isAdmitted
        [⟨"tag", .text "red"⟩] = true := by decide +kernel
    have hsecond : (Item.tagged "b" "red" [.one, .zero]).isAdmitted
        [⟨"tag", .text "red"⟩] = true := by decide +kernel
    have hthird : (Item.tagged "c" "grey" [.one, .zero]).isAdmitted
        [⟨"tag", .text "red"⟩] = false := by decide +kernel
    simp only [Item.samples, List.filter_cons, hfirst, hsecond, hthird, List.filter_nil, if_true,
      if_false, Bool.false_eq_true]
  have hbest : IsBest (fun item => (item.distanceTo [.one, .zero]).rank) 1
      [.tagged "a" "red" [.zero, .one], .tagged "b" "red" [.one, .zero]] found := by
    rw [← hcandidates]
    exact htop.best
  obtain ⟨item, rfl⟩ := List.length_eq_one_iff.mp hbest.length
  have hitem : item = .tagged "b" "red" [.one, .zero] := by
    rcases List.mem_pair.mp (hbest.subset (List.mem_singleton_self item)) with rfl | rfl
    · -- the first would leave the second out, which is nearer
      have hout := hbest.leftOut (.tagged "b" "red" [.one, .zero]) (by simp)
        (fun hmem => absurd (congrArg Item.id (List.mem_singleton.mp hmem)) (by decide)) _
        (List.mem_singleton_self _)
      rcases hout with hnearer | ⟨hsame, -⟩
      · exact absurd hnearer (by decide +kernel)
      · exact absurd hsame (by decide +kernel)
    · rfl
  refine ⟨result, hresult, ?_⟩
  rw [htop.ids, htop.nodes, hitem]
  rfl

end HybridRetrieval
