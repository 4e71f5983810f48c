import HybridRetrieval.Proofs.Session.Stocks
import HybridRetrieval.Proofs.Store.DenseQuery
import HybridRetrieval.Store.Read
/-!
# Whether what is stored can be read

Adding looks at the length of an embedding and at nothing else, so a store may hold what cannot be
given back: a node whose metadata or relationships are nested deeper than the reader enters, and an
embedding whose distance from another one overflows to what is not a number.  A request fails
exactly if it comes upon one of these (`get_ok_iff`, `query_dense_ok_iff`).  In every state of every
run all requests succeed exactly if there is none of them (`readable_iff`).
-/

namespace HybridRetrieval

/-- The item of a row is its node with the embedding. -/
theorem DataRow.toItem_ofItem {item : Item} {node : Node}
    (h : (DataRow.ofItem item).toNode = .ok node) :
    (DataRow.ofItem item).toItem = .ok ⟨node, item.embedding⟩ := by
  have hblob : blobCell (DataRow.ofItem item).embedding =
      .ok (Embedding.encode item.embedding) := rfl
  rw [toItem, h, hblob]
  simp only [bind, Except.bind, Embedding.decode_encode]
  rfl

namespace Store

/-- Getting a stored item reads its row. -/
theorem get_of_find? {s : Store} {db : Database} {rows : List DataRow} {id : String} {row : DataRow}
    (hrows : db.table? s.names.data = some (.data rows))
    (hfind : rows.find? (fun row => row.nodeId = .text id) = some row) :
    s.get id (some db) = row.toItem.map some := by
  simp only [get, Connection.database, Database.dataRows_eq_ok hrows, hfind, bind, Except.bind]
  cases row.toItem <;> rfl

variable {s : Store} {db : Database} {items : List Item}
  (hdata : db.table? s.names.data = some (.data (items.map DataRow.ofItem)))
include hdata

/-- **A stored node can be got exactly if it is within the limit of nesting.** -/
theorem get_ok_iff (hdistinct : (items.map Item.id).Nodup) {item : Item} (hitem : item ∈ items) :
    (∃ found, s.get item.id (some db) = .ok (some found)) ↔ item.node.WithinDepth := by
  have hfind := DataRow.find?_ofItem item.id items
  rw [(Item.stored?_eq_some_iff hdistinct).mpr ⟨hitem, rfl⟩] at hfind
  rw [get_of_find? hdata hfind, ← DataRow.toNode_ofItem_iff]
  constructor
  · rintro ⟨found, h⟩
    cases hnode : (DataRow.ofItem item).toNode with
    | error e => simp [DataRow.toItem, hnode, bind, Except.bind, Except.map] at h
    | ok node => exact ⟨node, rfl⟩
  · rintro ⟨node, hnode⟩
    rw [DataRow.toItem_ofItem hnode]
    exact ⟨_, rfl⟩

/-- **A dense query that fits into a statement succeeds exactly if all items that it lists can be
given back.** -/
theorem query_dense_ok_iff {q : Query} (hmode : q.mode = .dense) {embedding : List Single}
    (hembedding : q.embedding = some embedding) (hlength : embedding.length = s.params.embedDim)
    (hfilters : Filter.Apply q.filterList items)
    (hsize : (StatementSize.dense q.filterList).Accepted) :
    (∃ result, s.query q (some db) = .ok result) ↔
      ∀ item ∈ bestOf (fun item => distanceKey (item.distanceTo embedding)) q.topK
        (items.filter (Item.isAdmitted q.filterList)),
          item.node.WithinDepth ∧ (item.distanceTo embedding).isNaN = false := by
  rw [query_dense hmode hembedding hlength hfilters.checkKeys hsize hdata,
    ← denseHits_ok_iff hfilters q.topK]
  cases denseHits embedding q.topK q.filterList (items.map DataRow.ofItem) <;> simp [Except.map]

end Store

/-- **What can be read in every state of every run.**  From an embedding of the right length all
dense queries without filters succeed, and all stored nodes can be got, exactly if every stored node
is within the limit of nesting and its distance from the embedding is a number. -/
theorem readable_iff {start s : Session} (hstart : start.Fresh) (run : start.AnyRun s)
    {name : String} {handle : Store × Nat} (hhandle : s.handle? name = some handle) {db : Database}
    (hdb : s.connection handle.2 = some db) :
    ∃ stored, db.table? handle.1.names.data = some (.data stored) ∧ IsStock stored ∧
      ∀ items : List Item, stored = items.map DataRow.ofItem →
        ∀ embedding : List Single, embedding.length = handle.1.params.embedDim →
          (((∀ q : Query, q.mode = .dense → q.embedding = some embedding → q.filterList = [] →
              ∃ result, handle.1.query q (s.connection handle.2) = .ok result) ∧
            ∀ item ∈ items, ∃ found,
              handle.1.get item.id (s.connection handle.2) = .ok (some found)) ↔
            ∀ item ∈ items, item.node.WithinDepth ∧
              (item.distanceTo embedding).isNaN = false) := by
  obtain ⟨stored, hdata, hstock⟩ := run.stock hstart hhandle hdb
  refine ⟨stored, hdata, hstock, ?_⟩
  rintro items rfl embedding hlength
  rw [hdb]
  have hadmitted : items.filter (Item.isAdmitted []) = items :=
    List.filter_eq_self.mpr fun _ _ => rfl
  have hfits : (StatementSize.dense []).Accepted := by decide
  constructor
  · rintro ⟨hqueries, -⟩ item hitem
    -- ask for all items at once
    have hall := (Store.query_dense_ok_iff hdata (q := .dense embedding items.length) rfl rfl
      hlength (Filter.apply_nil items) hfits).mp (hqueries _ rfl rfl rfl)
    refine hall item ((bestOf_perm _ ?_).mem_iff.mpr ?_)
    · exact List.length_filter_le _ _
    · exact hadmitted.symm ▸ hitem
  · intro h
    constructor
    · intro q hmode hembedding hnone
      refine (Store.query_dense_ok_iff hdata hmode hembedding hlength
        (hnone ▸ Filter.apply_nil items) (hnone ▸ hfits)).mpr ?_
      exact fun item hitem => h item (List.mem_of_mem_filter (mem_of_mem_bestOf hitem))
    · exact fun item hitem => (Store.get_ok_iff hdata hstock.nodup hitem).mpr (h item hitem).1

/-- One embedding of length one: the query from it succeeds. -/
theorem readable_ofUnit :
    ∃ result, (Store.ofDimension 1).query (.dense [.one] 1)
      ((Session.ofItems 1 [.ofEmbedding "a" [.one]]).connection 0) = .ok result := by
  have hdb : (Session.ofItems 1 [.ofEmbedding "a" [.one]]).connection 0 = some
      ⟨[("data_t", .data [.ofItem (.ofEmbedding "a" [.one])])], ["idx_data_t_ref_doc"]⟩ := by rfl
  have hhandle : (Session.ofItems 1 [.ofEmbedding "a" [.one]]).handle? "h" =
      some (.ofDimension 1, 0) := by rfl
  obtain ⟨stored, hstored, -, hiff⟩ :=
    readable_iff Session.fresh_empty (Session.anyRun_foldl _ _) hhandle hdb
  have hreadable := (hiff [.ofEmbedding "a" [.one]]
    (Table.data.inj (Option.some.inj hstored)).symm [.one] rfl).mpr ?_
  · exact hreadable.1 _ rfl rfl rfl
  · intro item hitem
    rw [List.mem_singleton.mp hitem]
    exact ⟨⟨by decide +kernel, by decide +kernel⟩, by decide +kernel⟩

/-- **A finite embedding that cannot be asked about.**  It is stored without an error, and the query
for it fails: its norm overflows, and infinity by infinity is not a number. -/
theorem not_readable_ofOverflow :
    Session.AnyRun { disk := .empty } (Session.ofItems 1 [.ofEmbedding "a" [⟨0x7f61b1e6⟩]]) ∧
      (Session.ofItems 1 [.ofEmbedding "a" [⟨0x7f61b1e6⟩]]).connection 0 = some
        ⟨[("data_t", .data [.ofItem (.ofEmbedding "a" [⟨0x7f61b1e6⟩])])],
          ["idx_data_t_ref_doc"]⟩ ∧
      (Session.ofItems 1 [.ofEmbedding "a" [⟨0x7f61b1e6⟩]]).handle? "h" =
        some (.ofDimension 1, 0) ∧
      (⟨0x7f61b1e6⟩ : Single).isFinite = true ∧
      (Store.ofDimension 1).query (.dense [⟨0x7f61b1e6⟩] 1)
        ((Session.ofItems 1 [.ofEmbedding "a" [⟨0x7f61b1e6⟩]]).connection 0) =
          .error .storage := by
  refine ⟨Session.anyRun_foldl _ _, by rfl, by rfl, by decide, ?_⟩
  have hfails : ((Store.ofDimension 1).query (.dense [⟨0x7f61b1e6⟩] 1)
      ((Session.ofItems 1 [.ofEmbedding "a" [⟨0x7f61b1e6⟩]]).connection 0)).map (fun _ => ()) =
        .error .storage := by decide +kernel
  cases hquery : (Store.ofDimension 1).query (.dense [⟨0x7f61b1e6⟩] 1)
      ((Session.ofItems 1 [.ofEmbedding "a" [⟨0x7f61b1e6⟩]]).connection 0) with
  | error e =>
      rw [hquery] at hfails
      rw [Except.error.inj hfails]
  | ok result =>
      rw [hquery] at hfails
      cases hfails

end HybridRetrieval
