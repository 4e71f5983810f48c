import HybridRetrieval.Proofs.Query.Fusion
import HybridRetrieval.Proofs.Steps
import HybridRetrieval.Proofs.Store.Equipped
import HybridRetrieval.Store.Search
/-!
# What a result lists

Whatever is stored, a search that succeeds lists rows of the data table, none of them twice and not
more than asked for (`denseHits_lists`, `sparseHits_lists`): the filters leave some rows, these are
sorted and cut off, and the hits have the identifiers of the rows.

What a query that succeeds has done is said once: it has searched the rows behind the connection
(`denseQuery_ok`, `sparseQuery_ok`).  A hybrid query succeeds exactly if both searches do, with the
fusion of their results (`query_hybrid_ok_iff`).  If no two rows have one identifier, the results
are listings, and fusion is what it should be (`isFusion_of_query`).
-/

namespace HybridRetrieval

/-- Some of the rows, each at most once and not more than so many, are those of the hits. -/
structure ListsRows (rows : List DataRow) (limit : Nat) (hits : List Hit) : Prop where
  ids : ((hitIds hits).map Cell.text).Subperm (rows.map DataRow.nodeId)
  bound : hits.length ≤ limit

/-- No hits, of whatever rows. -/
theorem listsRows_nil (rows : List DataRow) (limit : Nat) : ListsRows rows limit [] :=
  ⟨List.nil_subperm, Nat.zero_le limit⟩

/-- If no two rows have one identifier, no two hits have. -/
theorem ListsRows.isListing {rows : List DataRow} {limit : Nat} {hits : List Hit}
    (h : ListsRows rows limit hits) (hkeyed : (rows.map DataRow.nodeId).Nodup) :
    (QueryResult.ofHits hits).IsListing limit := by
  obtain ⟨some, hperm, hsome⟩ := h.ids
  exact QueryResult.isListing_ofHits (hperm.nodup_iff.mp (hkeyed.sublist hsome)).of_map h.bound

namespace Store

variable {α : Type} {filters : List Filter} {rows : List DataRow} {hits : List Hit} {limit : Nat}

/-- The rows that are scored are some of the rows, in their order. -/
theorem scoreRows_sublist {score : DataRow → Except Error α} {scored : List (Scored α)}
    (h : scoreRows filters score rows = .ok scored) : (scored.map (·.1)).Sublist rows := by
  induction rows generalizing scored with
  | nil =>
      obtain rfl := Except.ok.inj h
      exact List.Sublist.slnil
  | cons row rest ih =>
      obtain ⟨holds, -, h⟩ := bind_eq_ok_iff.mp h
      cases holds with
      | false => exact (ih h).cons row
      | true =>
          obtain ⟨x, -, h⟩ := bind_eq_ok_iff.mp h
          obtain ⟨more, hmore, h⟩ := bind_eq_ok_iff.mp h
          obtain rfl := Except.ok.inj h
          exact (ih hmore).cons_cons row

/-- A cell that is read as a text holds it. -/
theorem eq_text_of_textCell {cell : Cell} {text : String}
    (h : DataRow.textCell cell = .ok text) : cell = .text text := by
  cases cell with
  | text value => rw [Except.ok.inj h]
  | blob bytes => cases h

/-- A node has the identifier of its row. -/
theorem nodeId_of_toNode {row : DataRow} {node : Node} (h : row.toNode = .ok node) :
    row.nodeId = .text node.id := by
  obtain ⟨_, -, h⟩ := bind_eq_ok_iff.mp h
  obtain ⟨_, -, h⟩ := bind_eq_ok_iff.mp h
  obtain ⟨id, hid, h⟩ := bind_eq_ok_iff.mp h
  obtain ⟨_, -, h⟩ := bind_eq_ok_iff.mp h
  obtain rfl := Except.ok.inj h
  exact eq_text_of_textCell hid

/-- A node has the text of its row. -/
theorem text_of_toNode {row : DataRow} {node : Node} (h : row.toNode = .ok node) :
    row.text = .text node.text := by
  obtain ⟨_, -, h⟩ := bind_eq_ok_iff.mp h
  obtain ⟨_, -, h⟩ := bind_eq_ok_iff.mp h
  obtain ⟨_, -, h⟩ := bind_eq_ok_iff.mp h
  obtain ⟨text, htext, h⟩ := bind_eq_ok_iff.mp h
  obtain rfl := Except.ok.inj h
  exact eq_text_of_textCell htext

/-- Hits have the identifiers of their rows. -/
theorem hitIds_toHits {similarity : α → Except Error Single} {scored : List (Scored α)}
    (h : toHits similarity scored = .ok hits) :
    (hitIds hits).map Cell.text = scored.map fun x => x.1.nodeId := by
  induction scored generalizing hits with
  | nil =>
      obtain rfl := Except.ok.inj h
      rfl
  | cons first rest ih =>
      obtain ⟨node, hnode, h⟩ := bind_eq_ok_iff.mp h
      obtain ⟨_, -, h⟩ := bind_eq_ok_iff.mp h
      obtain ⟨more, hmore, h⟩ := bind_eq_ok_iff.mp h
      obtain rfl := Except.ok.inj h
      rw [hitIds_cons, List.map_cons, List.map_cons, ih hmore, nodeId_of_toNode hnode]

/-- Sorted and cut off, scored rows make hits of some of the rows. -/
theorem listsRows_of_toHits {similarity : α → Except Error Single} {scored : List (Scored α)}
    (hscored : (scored.map (·.1)).Sublist rows) {le : Scored α → Scored α → Bool}
    (h : toHits similarity ((scored.mergeSort le).take limit) = .ok hits) :
    ListsRows rows limit hits := by
  have hids := hitIds_toHits h
  constructor
  · rw [hids]
    have htaken := (List.take_sublist limit (scored.mergeSort le)).map fun x => x.1.nodeId
    have hsorted := (List.mergeSort_perm scored le).map fun x => x.1.nodeId
    have hrows := hscored.map DataRow.nodeId
    rw [List.map_map] at hrows
    exact htaken.subperm.trans (hsorted.subperm.trans hrows.subperm)
  · have hlength := congrArg List.length hids
    rw [hitIds, List.length_map, List.length_map, List.length_map, List.length_take] at hlength
    omega

/-- **A dense search** lists some of the rows. -/
theorem denseHits_lists {embedding : List Single}
    (h : denseHits embedding limit filters rows = .ok hits) : ListsRows rows limit hits := by
  unfold denseHits at h
  split at h
  · obtain rfl := Except.ok.inj h
    exact listsRows_nil rows limit
  · obtain ⟨scored, hscored, h⟩ := bind_eq_ok_iff.mp h
    exact listsRows_of_toHits (scoreRows_sublist hscored) h

/-- **A sparse search** lists some of the rows. -/
theorem sparseHits_lists {terms : List String} {lexemes : List LexemeRow}
    (h : sparseHits terms limit filters lexemes rows = .ok hits) : ListsRows rows limit hits := by
  unfold sparseHits at h
  split at h
  · obtain rfl := Except.ok.inj h
    exact listsRows_nil rows limit
  · obtain ⟨scored, hscored, h⟩ := bind_eq_ok_iff.mp h
    exact listsRows_of_toHits ((scoreRows_sublist hscored).trans List.filter_sublist) h

/-! ## Queries -/

/-- The rows that a store finds behind a connection. -/
def rowsBehind (s : Store) (c : Connection) : List DataRow :=
  match c with
  | some db => db.rowsOf s.names.data
  | none => []

variable {s : Store} {c : Connection} {q : Query} {r : QueryResult}

theorem rowsBehind_of_dataRows {db : Database} (hopen : c.database = .ok db)
    (hrows : db.dataRows s.names.data = .ok rows) : s.rowsBehind c = rows := by
  cases c with
  | none => cases hopen
  | some found =>
      obtain rfl := Except.ok.inj hopen
      exact Database.rowsOf_eq (Database.table?_of_dataRows hrows)

/-- A dense query that succeeds has the hits of the search over the rows behind the connection. -/
theorem denseQuery_ok {embedding : List Single}
    (h : s.denseQuery embedding limit filters c = .ok r) :
    ∃ hits, denseHits embedding limit filters (s.rowsBehind c) = .ok hits ∧ r = .ofHits hits := by
  obtain ⟨_, -, h⟩ := bind_eq_ok_iff.mp h
  obtain ⟨_, -, h⟩ := bind_eq_ok_iff.mp h
  obtain ⟨db, hopen, h⟩ := bind_eq_ok_iff.mp h
  obtain ⟨_, -, h⟩ := bind_eq_ok_iff.mp h
  obtain ⟨rows, hrows, h⟩ := bind_eq_ok_iff.mp h
  obtain ⟨hits, hhits, h⟩ := bind_eq_ok_iff.mp h
  rw [rowsBehind_of_dataRows hopen hrows]
  exact ⟨hits, hhits, (Except.ok.inj h).symm⟩

/-- A sparse query that succeeds has no hits if the text has no lexemes, and else those of the
search over the rows and the lexeme rows behind the connection. -/
theorem sparseQuery_ok {text : String} (h : s.sparseQuery text limit filters c = .ok r) :
    ((s.params.analyzer.queryTerms text).isEmpty = true ∧ r = .ofHits []) ∨
    ((s.params.analyzer.queryTerms text).isEmpty = false ∧ ∃ lexemes hits,
      c.database.bind (·.lexemeRows s.names.lexemes) = .ok lexemes ∧
      sparseHits (s.params.analyzer.queryTerms text) limit filters lexemes (s.rowsBehind c) =
        .ok hits ∧ r = .ofHits hits) := by
  unfold sparseQuery at h
  dsimp only at h
  split at h
  · exact .inl ⟨‹_›, (Except.ok.inj h).symm⟩
  · obtain ⟨_, -, h⟩ := bind_eq_ok_iff.mp h
    obtain ⟨db, hopen, h⟩ := bind_eq_ok_iff.mp h
    obtain ⟨_, -, h⟩ := bind_eq_ok_iff.mp h
    obtain ⟨rows, hrows, h⟩ := bind_eq_ok_iff.mp h
    obtain ⟨lexemes, hlexemes, h⟩ := bind_eq_ok_iff.mp h
    obtain ⟨hits, hhits, h⟩ := bind_eq_ok_iff.mp h
    rw [rowsBehind_of_dataRows hopen hrows]
    refine .inr ⟨Bool.eq_false_iff.mpr ‹_›, lexemes, hits, ?_, hhits, (Except.ok.inj h).symm⟩
    rw [hopen]
    exact hlexemes

theorem denseQuery_lists {embedding : List Single}
    (h : s.denseQuery embedding limit filters c = .ok r) :
    ∃ hits, r = .ofHits hits ∧ ListsRows (s.rowsBehind c) limit hits := by
  obtain ⟨hits, hhits, rfl⟩ := denseQuery_ok h
  exact ⟨hits, rfl, denseHits_lists hhits⟩

theorem sparseQuery_lists {text : String} (h : s.sparseQuery text limit filters c = .ok r) :
    ∃ hits, r = .ofHits hits ∧ ListsRows (s.rowsBehind c) limit hits := by
  obtain ⟨-, rfl⟩ | ⟨-, _, hits, -, hhits, rfl⟩ := sparseQuery_ok h
  · exact ⟨[], rfl, listsRows_nil _ _⟩
  · exact ⟨hits, rfl, sparseHits_lists hhits⟩

end Store

/-- The same query in a mode. -/
def Query.inMode (q : Query) (mode : QueryMode) : Query := { q with mode := mode }

namespace Store

variable {s : Store} {c : Connection} {q : Query} {r dense sparse : QueryResult}

theorem query_dense_lists (h : s.query (q.inMode .dense) c = .ok r) :
    ∃ hits, r = .ofHits hits ∧ ListsRows (s.rowsBehind c) q.topK hits := by
  obtain ⟨embedding, -, h⟩ := bind_eq_ok_iff.mp h
  exact denseQuery_lists h

theorem query_sparse_lists (h : s.query (q.inMode .sparse) c = .ok r) :
    ∃ hits, r = .ofHits hits ∧ ListsRows (s.rowsBehind c) q.effectiveSparseTopK hits := by
  obtain ⟨_, -, h⟩ := bind_eq_ok_iff.mp h
  obtain ⟨text, -, h⟩ := bind_eq_ok_iff.mp h
  exact sparseQuery_lists h

/-- **A hybrid query** succeeds exactly if both searches do, and then with the fusion of their
results.  It makes the checks of both. -/
theorem query_hybrid_ok_iff :
    s.query (q.inMode .hybrid) c = .ok r ↔ ∃ dense sparse,
      s.query (q.inMode .dense) c = .ok dense ∧ s.query (q.inMode .sparse) c = .ok sparse ∧
        r = fuse dense sparse := by
  constructor
  · intro h
    obtain ⟨_, hhybrid, h⟩ := bind_eq_ok_iff.mp h
    obtain ⟨text, htext, h⟩ := bind_eq_ok_iff.mp h
    obtain ⟨embedding, hembedding, h⟩ := bind_eq_ok_iff.mp h
    obtain ⟨dense, hdense, h⟩ := bind_eq_ok_iff.mp h
    obtain ⟨sparse, hsparse, h⟩ := bind_eq_ok_iff.mp h
    refine ⟨dense, sparse, ?_, ?_, (Except.ok.inj h).symm⟩
    · exact bind_eq_ok_iff.mpr ⟨embedding, hembedding, hdense⟩
    · exact bind_eq_ok_iff.mpr ⟨_, hhybrid, bind_eq_ok_iff.mpr ⟨text, htext, hsparse⟩⟩
  · rintro ⟨dense, sparse, hdense, hsparse, rfl⟩
    obtain ⟨embedding, hembedding, hdense⟩ := bind_eq_ok_iff.mp hdense
    obtain ⟨_, hhybrid, hsparse⟩ := bind_eq_ok_iff.mp hsparse
    obtain ⟨text, htext, hsparse⟩ := bind_eq_ok_iff.mp hsparse
    refine bind_eq_ok_iff.mpr ⟨_, hhybrid, bind_eq_ok_iff.mpr ⟨text, htext, ?_⟩⟩
    refine bind_eq_ok_iff.mpr ⟨embedding, hembedding, bind_eq_ok_iff.mpr ⟨dense, hdense, ?_⟩⟩
    exact bind_eq_ok_iff.mpr ⟨sparse, hsparse, rfl⟩

section Keyed

variable (hkeyed : ((s.rowsBehind c).map DataRow.nodeId).Nodup)
include hkeyed

/-- The results of both searches are listings. -/
theorem isListing_of_query_dense (h : s.query (q.inMode .dense) c = .ok r) :
    r.IsListing q.topK := by
  obtain ⟨hits, rfl, hlists⟩ := query_dense_lists h
  exact hlists.isListing hkeyed

theorem isListing_of_query_sparse (h : s.query (q.inMode .sparse) c = .ok r) :
    r.IsListing q.effectiveSparseTopK := by
  obtain ⟨hits, rfl, hlists⟩ := query_sparse_lists h
  exact hlists.isListing hkeyed

/-- **The result of a hybrid query** is the dense result and what the sparse result adds to it. -/
theorem isFusion_of_query (h : s.query (q.inMode .hybrid) c = .ok r)
    (hdense : s.query (q.inMode .dense) c = .ok dense)
    (hsparse : s.query (q.inMode .sparse) c = .ok sparse) : r.IsFusion dense sparse := by
  obtain ⟨dense', sparse', hdense', hsparse', rfl⟩ := query_hybrid_ok_iff.mp h
  obtain rfl := Except.ok.inj (hdense'.symm.trans hdense)
  obtain rfl := Except.ok.inj (hsparse'.symm.trans hsparse)
  exact QueryResult.isFusion_fuse (isListing_of_query_dense hkeyed hdense)
    (isListing_of_query_sparse hkeyed hsparse)

end Keyed

end Store

end HybridRetrieval
