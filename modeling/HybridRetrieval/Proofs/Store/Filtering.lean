import HybridRetrieval.Proofs.Query.Restriction
import HybridRetrieval.Proofs.Store.DenseQuery
import HybridRetrieval.Proofs.Store.Listings
/-!
# Filtering before a search and after it

A search scores only the rows that satisfy its filters.  With room for all rows the result is the
one without filters, restricted to the nodes whose rows satisfy every one of the filters
(`query_withFilters`).  The filters act on the scored rows (`scoreRows_withFilters`), sorting
commutes with leaving rows out, and from the rows the restriction is carried to the hits
(`toHits_filter`).  Of the table it is only used that no two rows have one identifier.
-/

namespace HybridRetrieval

/-- The same query with other filters. -/
def Query.withFilters (q : Query) (filters : List Filter) : Query :=
  { q with filters := some filters }

/-- The same query without filters. -/
def Query.unfiltered (q : Query) : Query := { q with filters := none }

namespace Store

/-- Whether the row with an identifier satisfies a filter, taken alone. -/
def satisfies (s : Store) (c : Connection) (f : Filter) (id : String) : Bool :=
  (s.rowsBehind c).any fun row => row.nodeId == .text id && decide (f.holds row.metadata = .ok true)

variable {α : Type} {filters : List Filter} {rows : List DataRow} {limit : Nat}

/-- If all rows can be scored, the filters leave the scored rows that they admit. -/
theorem scoreRows_withFilters {score : DataRow → Except Error α} {all scored : List (Scored α)}
    (hall : scoreRows [] score rows = .ok all) (h : scoreRows filters score rows = .ok scored) :
    scored = all.filter fun x => Filter.admits filters x.1.metadata := by
  induction rows generalizing all scored with
  | nil =>
      obtain rfl := Except.ok.inj hall
      obtain rfl := Except.ok.inj h
      rfl
  | cons row rest ih =>
      obtain ⟨_, hnone, hall⟩ := bind_eq_ok_iff.mp hall
      obtain rfl := Except.ok.inj hnone
      obtain ⟨x, hx, hall⟩ := bind_eq_ok_iff.mp hall
      obtain ⟨more, hmore, hall⟩ := bind_eq_ok_iff.mp hall
      obtain rfl := Except.ok.inj hall
      obtain ⟨holds, hholds, h⟩ := bind_eq_ok_iff.mp h
      have hadmits : holds = Filter.admits filters row.metadata :=
        Except.ok.inj (hholds.symm.trans (Filter.allHold_eq_admits hholds))
      cases holds with
      | false => rw [List.filter_cons, ← hadmits, ih hmore h, if_neg Bool.false_ne_true]
      | true =>
          obtain ⟨x', hx', h⟩ := bind_eq_ok_iff.mp h
          obtain ⟨some, hsome, h⟩ := bind_eq_ok_iff.mp h
          obtain rfl := Except.ok.inj h
          obtain rfl := Except.ok.inj (hx.symm.trans hx')
          rw [List.filter_cons, ← hadmits, ih hmore hsome, if_pos rfl]

/-- Leaving out rows leaves out their hits. -/
theorem toHits_filter {similarity : α → Except Error Single} {scored : List (Scored α)}
    {hits : List Hit} (h : toHits similarity scored = .ok hits) (keep : DataRow → Bool)
    {p : String → Bool}
    (hsame : ∀ x ∈ scored, ∀ node, x.1.toNode = .ok node → p node.id = keep x.1) :
    toHits similarity (scored.filter fun x => keep x.1) =
      .ok (hits.filter fun hit => p hit.1.id) := by
  induction scored generalizing hits with
  | nil =>
      obtain rfl := Except.ok.inj h
      rfl
  | cons first rest ih =>
      obtain ⟨node, hnode, h⟩ := bind_eq_ok_iff.mp h
      obtain ⟨y, hy, h⟩ := bind_eq_ok_iff.mp h
      obtain ⟨more, hmore, h⟩ := bind_eq_ok_iff.mp h
      obtain rfl := Except.ok.inj h
      have hrest := ih hmore fun x hx => hsame x (List.mem_cons_of_mem _ hx)
      rw [List.filter_cons, List.filter_cons, hsame first List.mem_cons_self node hnode]
      cases keep first.1 with
      | false => simpa using hrest
      | true =>
          rw [if_pos rfl, if_pos rfl, toHits]
          simp only [bind, Except.bind, hnode, hy, hrest]
          rfl

section Search

variable {score : DataRow → Except Error α} {similarity : α → Except Error Single}
  {le : Scored α → Scored α → Bool}
  (trans : ∀ a b c, le a b = true → le b c = true → le a c = true)
  (total : ∀ a b, (le a b || le b a) = true)
include trans total

/-- **With room for all rows** a search with filters finds the hits without filters whose rows are
admitted. -/
theorem hits_withFilters {all scored : List (Scored α)} (hall : scoreRows [] score rows = .ok all)
    (h : scoreRows filters score rows = .ok scored) (hroom : rows.length ≤ limit)
    {hits some : List Hit} (hhits : toHits similarity ((all.mergeSort le).take limit) = .ok hits)
    (hsome : toHits similarity ((scored.mergeSort le).take limit) = .ok some) {p : String → Bool}
    (hp : ∀ row ∈ rows, ∀ node, row.toNode = .ok node →
      p node.id = Filter.admits filters row.metadata) :
    some = hits.filter fun hit => p hit.1.id := by
  have hlength : ∀ {fs : List Filter} {found : List (Scored α)},
      scoreRows fs score rows = .ok found →
        (found.mergeSort le).take limit = found.mergeSort le := by
    intro fs found hfound
    have hsub := (scoreRows_sublist hfound).length_le
    rw [List.length_map] at hsub
    exact List.take_of_length_le (by rw [List.length_mergeSort]; omega)
  rw [hlength hall] at hhits
  rw [hlength h, scoreRows_withFilters hall h, filter_mergeSort trans total] at hsome
  refine Except.ok.inj (hsome.symm.trans (toHits_filter hhits
    (fun row => Filter.admits filters row.metadata) fun x hx => hp x.1 ?_))
  exact (scoreRows_sublist hall).subset (List.mem_map_of_mem (List.mem_mergeSort.mp hx))

end Search

/-- **Dense hits** with filters are those without, of the rows that are admitted. -/
theorem denseHits_withFilters {embedding : List Single} (hroom : rows.length ≤ limit)
    {hits some : List Hit} (hhits : denseHits embedding limit [] rows = .ok hits)
    (hsome : denseHits embedding limit filters rows = .ok some) {p : String → Bool}
    (hp : ∀ row ∈ rows, ∀ node, row.toNode = .ok node →
      p node.id = Filter.admits filters row.metadata) :
    some = hits.filter fun hit => p hit.1.id := by
  unfold denseHits at hhits hsome
  split at hhits
  · obtain rfl := Except.ok.inj hhits
    rw [if_pos ‹_›] at hsome
    exact (Except.ok.inj hsome).symm
  · rw [if_neg ‹_›] at hsome
    obtain ⟨all, hall, hhits⟩ := bind_eq_ok_iff.mp hhits
    obtain ⟨scored, hscored, hsome⟩ := bind_eq_ok_iff.mp hsome
    refine hits_withFilters ?_ ?_ hall hscored hroom hhits hsome hp
    · intro a b c hab hbc
      rw [distanceLE_eq_distanceKey, decide_eq_true_eq] at hab hbc ⊢
      exact hab.trans hbc
    · intro a b
      rw [distanceLE_eq_distanceKey, distanceLE_eq_distanceKey, Bool.or_eq_true, decide_eq_true_eq,
        decide_eq_true_eq]
      exact Int.le_total _ _

/-- **Sparse hits** with filters are those without, of the rows that are admitted. -/
theorem sparseHits_withFilters {terms : List String} {lexemes : List LexemeRow}
    (hroom : rows.length ≤ limit) {hits some : List Hit}
    (hhits : sparseHits terms limit [] lexemes rows = .ok hits)
    (hsome : sparseHits terms limit filters lexemes rows = .ok some) {p : String → Bool}
    (hp : ∀ row ∈ rows, ∀ node, row.toNode = .ok node →
      p node.id = Filter.admits filters row.metadata) :
    some = hits.filter fun hit => p hit.1.id := by
  unfold sparseHits at hhits hsome
  split at hhits
  · obtain rfl := Except.ok.inj hhits
    rw [if_pos ‹_›] at hsome
    exact (Except.ok.inj hsome).symm
  · rw [if_neg ‹_›] at hsome
    obtain ⟨all, hall, hhits⟩ := bind_eq_ok_iff.mp hhits
    obtain ⟨scored, hscored, hsome⟩ := bind_eq_ok_iff.mp hsome
    refine hits_withFilters ?_ ?_ hall hscored ((List.length_filter_le _ _).trans hroom) hhits hsome
      fun row hrow => hp row (List.mem_of_mem_filter hrow)
    · intro a b c hab hbc
      rw [decide_eq_true_eq] at hab hbc ⊢
      exact hbc.trans hab
    · intro a b
      rw [Bool.or_eq_true, decide_eq_true_eq, decide_eq_true_eq]
      exact Int.le_total _ _

/-! ## Queries -/

section Keyed

variable {s : Store} {c : Connection} (hkeyed : ((s.rowsBehind c).map DataRow.nodeId).Nodup)
include hkeyed

/-- The row with the identifier of a node is the row of the node. -/
theorem satisfies_of_toNode {row : DataRow} (hrow : row ∈ s.rowsBehind c) {node : Node}
    (hnode : row.toNode = .ok node) (f : Filter) :
    s.satisfies c f node.id = decide (f.holds row.metadata = .ok true) := by
  have hid := nodeId_of_toNode hnode
  rw [Bool.eq_iff_iff, satisfies, List.any_eq_true]
  constructor
  · rintro ⟨other, hother, h⟩
    rw [Bool.and_eq_true, beq_iff_eq] at h
    obtain rfl := List.inj_on_of_nodup_map hkeyed hother hrow (h.1.trans hid.symm)
    exact h.2
  · intro h
    exact ⟨row, hrow, by rw [Bool.and_eq_true, beq_iff_eq]; exact ⟨hid, h⟩⟩

/-- The row of a node is admitted if it satisfies each filter alone. -/
theorem all_satisfies_of_toNode {row : DataRow} (hrow : row ∈ s.rowsBehind c) {node : Node}
    (hnode : row.toNode = .ok node) (filters : List Filter) :
    (filters.all fun f => s.satisfies c f node.id) = Filter.admits filters row.metadata := by
  simp only [satisfies_of_toNode hkeyed hrow hnode, Filter.admits]

/-- A dense search with filters and room for all rows. -/
theorem denseQuery_withFilters {embedding : List Single} (hroom : (s.rowsBehind c).length ≤ limit)
    {all r : QueryResult} (hall : s.denseQuery embedding limit [] c = .ok all)
    (h : s.denseQuery embedding limit filters c = .ok r) :
    r = all.restrict fun id => filters.all fun f => s.satisfies c f id := by
  obtain ⟨hits, hhits, rfl⟩ := denseQuery_ok hall
  obtain ⟨some, hsome, rfl⟩ := denseQuery_ok h
  rw [QueryResult.restrict_ofHits,
    denseHits_withFilters (p := fun id => filters.all fun f => s.satisfies c f id) hroom hhits hsome
      fun row hrow node hnode => all_satisfies_of_toNode hkeyed hrow hnode filters]

/-- A sparse search with filters and room for all rows. -/
theorem sparseQuery_withFilters {text : String} (hroom : (s.rowsBehind c).length ≤ limit)
    {all r : QueryResult} (hall : s.sparseQuery text limit [] c = .ok all)
    (h : s.sparseQuery text limit filters c = .ok r) :
    r = all.restrict fun id => filters.all fun f => s.satisfies c f id := by
  obtain ⟨hempty, rfl⟩ | ⟨hterms, lexemes, hits, hlexemes, hhits, rfl⟩ := sparseQuery_ok hall
  · obtain ⟨-, rfl⟩ | ⟨hterms, -⟩ := sparseQuery_ok h
    · rfl
    · cases hterms.symm.trans hempty
  · obtain ⟨hempty, -⟩ | ⟨-, lexemes', some, hlexemes', hsome, rfl⟩ := sparseQuery_ok h
    · cases hterms.symm.trans hempty
    obtain rfl := Except.ok.inj (hlexemes'.symm.trans hlexemes)
    rw [QueryResult.restrict_ofHits,
      sparseHits_withFilters (p := fun id => filters.all fun f => s.satisfies c f id) hroom hhits
        hsome fun row hrow node hnode => all_satisfies_of_toNode hkeyed hrow hnode filters]

/-- **A query with filters and room for all rows**, in every mode, is the query without filters
restricted to the nodes that satisfy each filter alone. -/
theorem query_withFilters {q : Query} (hdense : (s.rowsBehind c).length ≤ q.topK)
    (hsparse : (s.rowsBehind c).length ≤ q.effectiveSparseTopK) {all r : QueryResult}
    (hall : s.query q.unfiltered c = .ok all) (h : s.query (q.withFilters filters) c = .ok r) :
    r = all.restrict fun id => filters.all fun f => s.satisfies c f id := by
  have hdenseMode : ∀ {all r : QueryResult}, s.query (q.unfiltered.inMode .dense) c = .ok all →
      s.query ((q.withFilters filters).inMode .dense) c = .ok r →
        r = all.restrict fun id => filters.all fun f => s.satisfies c f id := by
    intro all r hall h
    obtain ⟨embedding, hembedding, hall⟩ := bind_eq_ok_iff.mp hall
    obtain ⟨embedding', hembedding', h⟩ := bind_eq_ok_iff.mp h
    obtain rfl := Except.ok.inj (hembedding'.symm.trans hembedding)
    exact denseQuery_withFilters hkeyed hdense hall h
  have hsparseMode : ∀ {all r : QueryResult}, s.query (q.unfiltered.inMode .sparse) c = .ok all →
      s.query ((q.withFilters filters).inMode .sparse) c = .ok r →
        r = all.restrict fun id => filters.all fun f => s.satisfies c f id := by
    intro all r hall h
    obtain ⟨_, -, hall⟩ := bind_eq_ok_iff.mp hall
    obtain ⟨text, htext, hall⟩ := bind_eq_ok_iff.mp hall
    obtain ⟨_, -, h⟩ := bind_eq_ok_iff.mp h
    obtain ⟨text', htext', h⟩ := bind_eq_ok_iff.mp h
    obtain rfl := Except.ok.inj (htext'.symm.trans htext)
    exact sparseQuery_withFilters hkeyed hsparse hall h
  obtain ⟨mode, hmode⟩ : ∃ mode, q.inMode mode = q := ⟨q.mode, rfl⟩
  have hunfiltered : q.unfiltered.inMode mode = q.unfiltered := by
    rw [← hmode]
    rfl
  have hfiltered : (q.withFilters filters).inMode mode = q.withFilters filters := by
    rw [← hmode]
    rfl
  rw [← hunfiltered] at hall
  rw [← hfiltered] at h
  cases mode with
  | dense => exact hdenseMode hall h
  | sparse => exact hsparseMode hall h
  | hybrid =>
      obtain ⟨dense, sparse, hfirst, hsecond, rfl⟩ := query_hybrid_ok_iff.mp hall
      obtain ⟨dense', sparse', hfirst', hsecond', rfl⟩ := query_hybrid_ok_iff.mp h
      rw [hdenseMode hfirst hfirst', hsparseMode hsecond hsecond', QueryResult.fuse_restrict]

end Keyed

end Store

end HybridRetrieval
