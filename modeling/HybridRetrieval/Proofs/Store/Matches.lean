import HybridRetrieval.Proofs.Store.Listings
/-!
# Where returned nodes come from

Every node that a query returns, in whatever mode, is the node of a row behind the connection of
which all filters of the query hold (`isFound_of_query`): a row is scored only if they do, and
sorting, cutting off and fusing add none.  So whatever a query returns is stored
(`nodeId_mem_of_query`).
-/

namespace HybridRetrieval

/-- A node is that of a row of which all filters hold. -/
def IsFound (rows : List DataRow) (filters : List Filter) (node : Node) : Prop :=
  ∃ row ∈ rows, row.toNode = .ok node ∧ Filter.allHold filters row.metadata = .ok true

namespace Store

variable {α : Type} {filters : List Filter} {rows : List DataRow} {hits : List Hit} {limit : Nat}

/-- The filters hold of every row that is scored, and it has its score. -/
theorem of_mem_scoreRows {score : DataRow → Except Error α} {scored : List (Scored α)}
    (h : scoreRows filters score rows = .ok scored) {x : Scored α} (hx : x ∈ scored) :
    x.1 ∈ rows ∧ Filter.allHold filters x.1.metadata = .ok true ∧ score x.1 = .ok x.2 := by
  induction rows generalizing scored with
  | nil =>
      obtain rfl := Except.ok.inj h
      cases hx
  | cons row rest ih =>
      obtain ⟨holds, hholds, h⟩ := bind_eq_ok_iff.mp h
      cases holds with
      | false => exact (ih h hx).imp_left (List.mem_cons_of_mem _)
      | true =>
          obtain ⟨y, hy, h⟩ := bind_eq_ok_iff.mp h
          obtain ⟨more, hmore, h⟩ := bind_eq_ok_iff.mp h
          obtain rfl := Except.ok.inj h
          rcases List.mem_cons.mp hx with rfl | hx
          · exact ⟨List.mem_cons_self, hholds, hy⟩
          · exact (ih hmore hx).imp_left (List.mem_cons_of_mem _)

/-- A hit has the node of its row, with the similarity for its score. -/
theorem of_mem_toHits {similarity : α → Except Error Single} {scored : List (Scored α)}
    (h : toHits similarity scored = .ok hits) {hit : Hit} (hhit : hit ∈ hits) :
    ∃ x ∈ scored, x.1.toNode = .ok hit.1 ∧ similarity x.2 = .ok hit.2 := by
  induction scored generalizing hits with
  | nil =>
      obtain rfl := Except.ok.inj h
      cases hhit
  | cons first rest ih =>
      obtain ⟨node, hnode, h⟩ := bind_eq_ok_iff.mp h
      obtain ⟨y, hy, h⟩ := bind_eq_ok_iff.mp h
      obtain ⟨more, hmore, h⟩ := bind_eq_ok_iff.mp h
      obtain rfl := Except.ok.inj h
      rcases List.mem_cons.mp hhit with rfl | hhit
      · exact ⟨first, List.mem_cons_self, hnode, hy⟩
      · obtain ⟨x, hx, hboth⟩ := ih hmore hhit
        exact ⟨x, List.mem_cons_of_mem _ hx, hboth⟩

/-- Scored, sorted and cut off, rows make hits of which all filters hold. -/
theorem isFound_of_toHits {score : DataRow → Except Error α} {scored : List (Scored α)}
    (hscored : scoreRows filters score rows = .ok scored) {similarity : α → Except Error Single}
    {le : Scored α → Scored α → Bool}
    (h : toHits similarity ((scored.mergeSort le).take limit) = .ok hits) {hit : Hit}
    (hhit : hit ∈ hits) : IsFound rows filters hit.1 := by
  obtain ⟨x, hx, hnode, -⟩ := of_mem_toHits h hhit
  obtain ⟨hrow, hholds, -⟩ := of_mem_scoreRows hscored
    (List.mem_mergeSort.mp (List.mem_of_mem_take hx))
  exact ⟨x.1, hrow, hnode, hholds⟩

/-- **A dense search** finds rows of which all filters hold. -/
theorem isFound_of_denseHits {embedding : List Single}
    (h : denseHits embedding limit filters rows = .ok hits) {hit : Hit} (hhit : hit ∈ hits) :
    IsFound rows filters hit.1 := by
  unfold denseHits at h
  split at h
  · obtain rfl := Except.ok.inj h
    cases hhit
  · obtain ⟨scored, hscored, h⟩ := bind_eq_ok_iff.mp h
    exact isFound_of_toHits hscored h hhit

/-- **A sparse search** finds rows of which all filters hold. -/
theorem isFound_of_sparseHits {terms : List String} {lexemes : List LexemeRow}
    (h : sparseHits terms limit filters lexemes rows = .ok hits) {hit : Hit} (hhit : hit ∈ hits) :
    IsFound rows filters hit.1 := by
  unfold sparseHits at h
  split at h
  · obtain rfl := Except.ok.inj h
    cases hhit
  · obtain ⟨scored, hscored, h⟩ := bind_eq_ok_iff.mp h
    obtain ⟨row, hrow, hfound⟩ := isFound_of_toHits hscored h hhit
    exact ⟨row, List.mem_of_mem_filter hrow, hfound⟩

variable {s : Store} {c : Connection} {q : Query} {r : QueryResult} {node : Node}

theorem isFound_of_query_dense (h : s.query (q.inMode .dense) c = .ok r) (hnode : node ∈ r.nodes) :
    IsFound (s.rowsBehind c) q.filterList node := by
  obtain ⟨embedding, -, h⟩ := bind_eq_ok_iff.mp h
  obtain ⟨hits, hhits, rfl⟩ := denseQuery_ok h
  obtain ⟨hit, hhit, rfl⟩ := List.mem_map.mp hnode
  exact isFound_of_denseHits hhits hhit

theorem isFound_of_query_sparse (h : s.query (q.inMode .sparse) c = .ok r)
    (hnode : node ∈ r.nodes) : IsFound (s.rowsBehind c) q.filterList node := by
  obtain ⟨_, -, h⟩ := bind_eq_ok_iff.mp h
  obtain ⟨text, -, h⟩ := bind_eq_ok_iff.mp h
  obtain ⟨-, rfl⟩ | ⟨-, _, hits, -, hhits, rfl⟩ := sparseQuery_ok h
  · cases hnode
  · obtain ⟨hit, hhit, rfl⟩ := List.mem_map.mp hnode
    exact isFound_of_sparseHits hhits hhit

/-- **Whatever a query returns**, in every mode, is the node of a stored row of which all its
filters hold. -/
theorem isFound_of_query {q : Query} (h : s.query q c = .ok r) (hnode : node ∈ r.nodes) :
    IsFound (s.rowsBehind c) q.filterList node := by
  obtain ⟨mode, hmode⟩ : ∃ mode, q.inMode mode = q := ⟨q.mode, rfl⟩
  rw [← hmode] at h ⊢
  cases mode with
  | dense => exact isFound_of_query_dense h hnode
  | sparse => exact isFound_of_query_sparse h hnode
  | hybrid =>
      obtain ⟨dense, sparse, hdense, hsparse, rfl⟩ := query_hybrid_ok_iff.mp h
      rcases QueryResult.mem_nodes_fuse hnode with hfirst | hsecond
      · exact isFound_of_query_dense hdense hfirst
      · exact isFound_of_query_sparse hsparse hsecond

/-- **Whatever a query returns is stored**, in every mode. -/
theorem nodeId_mem_of_query {q : Query} (h : s.query q c = .ok r) (hnode : node ∈ r.nodes) :
    .text node.id ∈ (s.rowsBehind c).map DataRow.nodeId := by
  obtain ⟨row, hrow, hread, -⟩ := isFound_of_query h hnode
  exact List.mem_map.mpr ⟨row, hrow, nodeId_of_toNode hread⟩

end Store

end HybridRetrieval
