import HybridRetrieval.Proofs.Session.Keyed
import HybridRetrieval.Proofs.Store.DenseQuery
import HybridRetrieval.Proofs.Store.Listings
import HybridRetrieval.Proofs.Store.SparseQuery
/-!
# Hybrid queries

In every state, also after edits and also through a closed handle, a hybrid query answers exactly if
the dense and the sparse query do.  Since tables are keyed, its result is the dense one and then
what the sparse one adds (`hybrid_query`), so the bounds of both add up.
-/

namespace HybridRetrieval

/-- What a store finds behind a connection is keyed, in every state. -/
theorem Session.EditedRun.nodup_rowsBehind {start s : Session} (hstart : start.Orderly)
    (run : Session.EditedRun start s) (store : Store) (number : Nat) :
    ((store.rowsBehind (s.connection number)).map DataRow.nodeId).Nodup := by
  have hempty : WellShaped .empty ∧ Database.empty.Keyed := maintained_keyed.empty
  cases hdb : s.connection number with
  | none => exact List.nodup_nil
  | some db => exact ((run.keyed hstart).good_of_has hempty (Or.inr ⟨number, hdb⟩)).2 _

/-- **Hybrid search is dense search and what sparse search adds to it.**  After whatever operations
and edits, through every handle, open or closed, and for every query. -/
theorem hybrid_query {start s : Session} (hstart : start.Orderly) (run : Session.EditedRun start s)
    (handle : Store × Nat) (q : Query) :
    ((∃ r, handle.1.query (q.inMode .hybrid) (s.connection handle.2) = .ok r) ↔
      (∃ dense, handle.1.query (q.inMode .dense) (s.connection handle.2) = .ok dense) ∧
        ∃ sparse, handle.1.query (q.inMode .sparse) (s.connection handle.2) = .ok sparse) ∧
    ∀ r dense sparse, handle.1.query (q.inMode .hybrid) (s.connection handle.2) = .ok r →
      handle.1.query (q.inMode .dense) (s.connection handle.2) = .ok dense →
      handle.1.query (q.inMode .sparse) (s.connection handle.2) = .ok sparse →
        r.IsFusion dense sparse ∧ dense.IsListing q.topK ∧
          sparse.IsListing (q.sparseTopK.getD q.topK) ∧
          r.size ≤ q.topK + q.sparseTopK.getD q.topK := by
  have hkeyed := run.nodup_rowsBehind hstart handle.1 handle.2
  constructor
  · constructor
    · rintro ⟨r, h⟩
      obtain ⟨dense, sparse, hdense, hsparse, -⟩ := Store.query_hybrid_ok_iff.mp h
      exact ⟨⟨dense, hdense⟩, sparse, hsparse⟩
    · rintro ⟨⟨dense, hdense⟩, sparse, hsparse⟩
      exact ⟨_, Store.query_hybrid_ok_iff.mpr ⟨dense, sparse, hdense, hsparse, rfl⟩⟩
  · intro r dense sparse h hdense hsparse
    have hfusion := Store.isFusion_of_query hkeyed h hdense hsparse
    have hfirst := Store.isListing_of_query_dense hkeyed hdense
    have hsecond : sparse.IsListing (q.sparseTopK.getD q.topK) :=
      Store.isListing_of_query_sparse hkeyed hsparse
    refine ⟨hfusion, hfirst, hsecond, ?_⟩
    have htotal : r.size ≤ dense.size + sparse.size := hfusion.listing.bound
    have hdenseBound := hfirst.bound
    have hsparseBound := hsecond.bound
    omega

/-- An item by whose embedding it can be found. -/
def Item.fox : Item := ⟨⟨"a", "red fox", .empty, {}⟩, [.one]⟩

/-- An item by whose text it can be found. -/
def Item.hen : Item := ⟨⟨"b", "red hen", .empty, {}⟩, [.zero]⟩

/-- A query by embedding and text. -/
def Query.forHen : Query :=
  { embedding := some [.one], text := some "a hen", topK := 1, sparseTopK := some 2 }

/-- What a hybrid store in memory is opened with. -/
def StoreParams.withIndex : StoreParams :=
  { StoreParams.inMemory "t" with embedDim := 1, hybridSearch := true }

/-- A session in which such a store is opened and given both items. -/
def Session.withFoxAndHen : Session :=
  [Operation.openStore "h" .withIndex, .write "h" (.add [.fox, .hen])].foldl Session.perform
    { disk := .empty }

/-- Dense search finds one item, sparse search the other, and hybrid search lists both. -/
theorem hybrid_query_withFoxAndHen :
    ∃ r, (⟨⟨"data_t", "data_t_lexemes"⟩, .withIndex⟩ : Store).query
      (Query.forHen.inMode .hybrid) (Session.withFoxAndHen.connection 0) = .ok r ∧
        r.ids = ["a", "b"] := by
  have hdb : Session.withFoxAndHen.connection 0 = some
      ⟨[("data_t", .data ([Item.fox, .hen].map .ofItem)),
        ("data_t_lexemes", .lexemes ((Write.add [.fox, .hen]).reindex .english [] []))],
      ["idx_data_t_ref_doc", "idx_data_t_lexemes_lexeme"]⟩ := by rfl
  have hread : ∀ item ∈ [Item.fox, .hen], item.node.WithinDepth := by
    intro item hitem
    rcases List.mem_pair.mp hitem with rfl | rfl <;> exact ⟨by decide +kernel, by decide +kernel⟩
  have hadmitted : ∀ items : List Item, items.filter (Item.isAdmitted []) = items := fun _ =>
    List.filter_eq_self.mpr fun _ _ => rfl
  have hdense : (⟨⟨"data_t", "data_t_lexemes"⟩, .withIndex⟩ : Store).query
      (Query.forHen.inMode .dense) (Session.withFoxAndHen.connection 0) =
        .ok (.ofHits [(Item.fox.node.reread, similarityFor (Item.fox.distanceTo [.one]))]) := by
    have hnumber : ∀ item ∈ [Item.fox, .hen].filter (Item.isAdmitted []),
        (item.distanceTo [.one]).isNaN = false := by
      intro item hitem
      rcases List.mem_pair.mp (List.mem_of_mem_filter hitem) with rfl | rfl <;> decide +kernel
    have hnearest : bestOf (fun item => (item.distanceTo [.one]).rank) 1 [Item.fox, .hen] =
        [.fox] := by
      have hnearer : (Item.fox.distanceTo [.one]).rank ≤ (Item.hen.distanceTo [.one]).rank := by
        decide +kernel
      rw [bestOf, List.mergeSort_of_pairwise (by simpa using hnearer)]
      rfl
    have hhits := Store.denseHits_ofItem (Filter.apply_nil [Item.fox, .hen]) 1 hread hnumber
    rw [hadmitted, hnearest] at hhits
    rw [hdb, Store.query_dense rfl rfl rfl rfl (by decide) rfl]
    exact congrArg (Except.map QueryResult.ofHits) hhits
  have hdistinct : ([Item.fox, .hen].map Item.id).Nodup := by decide
  have hindex : IsIndexOf (fun _ => .english) [.fox, .hen]
      ((Write.add [.fox, .hen]).reindex .english [] []) := by
    have hnone : Covers (fun _ => .english) [] [] := fun _ => rfl
    have hwritten := hnone.write List.nodup_nil .english (.add [.fox, .hen])
    rw [Write.analyzersAfter_const] at hwritten
    exact hwritten.isIndexOf hdistinct
  obtain ⟨rankOf, hrank⟩ : ∃ rankOf : Item → Double, ∀ item, rankOf item = lexicalRank
    (sharedIn ((Write.add [.fox, .hen]).reindex .english [] []) (Analyzer.english.lexemes "a hen")
      item.id) (Analyzer.english.lexemes item.node.text) := ⟨_, fun _ => rfl⟩
  have hsparse : (⟨⟨"data_t", "data_t_lexemes"⟩, .withIndex⟩ : Store).query
      (Query.forHen.inMode .sparse) (Session.withFoxAndHen.connection 0) =
        .ok (.ofHits [(Item.hen.node.reread, (rankOf .hen).toSingle)]) := by
    have hshares : indexedFor .english (fun _ => .english) "a hen" [Item.fox, .hen] = [.hen] := by
      have hfox : sharesLexeme (Analyzer.english.lexemes "a hen")
          (Analyzer.english.lexemes Item.fox.node.text) = false := by decide +kernel
      have hhen : sharesLexeme (Analyzer.english.lexemes "a hen")
          (Analyzer.english.lexemes Item.hen.node.text) = true := by decide +kernel
      simp [indexedFor, hfox, hhen]
    have hbest : bestOf (fun item => -(rankOf item).rank) 2 [Item.hen] = [.hen] :=
      List.perm_singleton.mp (bestOf_perm _ (by simp))
    have hhits := Store.sparseHits_of_index hindex hdistinct 2
      (Filter.apply_nil [Item.fox, .hen]) hread hrank
    rw [hshares, hadmitted, hbest] at hhits
    rw [hdb, Store.query_sparse rfl rfl rfl]
    exact Store.sparseQuery_of_hits (by decide +kernel) rfl (by decide +kernel) rfl rfl hhits
  obtain ⟨hiff, hresult⟩ := hybrid_query Session.fresh_empty.orderly
    (Session.anyRun_foldl _ _).edited (⟨⟨"data_t", "data_t_lexemes"⟩, .withIndex⟩, 0) Query.forHen
  obtain ⟨r, hr⟩ := hiff.mpr ⟨⟨_, hdense⟩, _, hsparse⟩
  obtain ⟨hfusion, -⟩ := hresult r _ _ hr hdense hsparse
  refine ⟨r, hr, ?_⟩
  rw [hfusion.ids, QueryResult.added, QueryResult.hits_ofHits]
  rfl

end HybridRetrieval
