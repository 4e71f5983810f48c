import HybridRetrieval.Proofs.Lexeme.QueryTerms
import HybridRetrieval.Proofs.Session.Arranged
import HybridRetrieval.Proofs.Session.IndexInStep
import HybridRetrieval.Proofs.Store.Alike
import HybridRetrieval.Proofs.Store.Matches
import HybridRetrieval.Proofs.Store.SparseQuery
/-!
# What a sparse ranking depends on

A sparse query looks at its text only through the set of its lexemes: it asks of each lexeme row
whether its lexeme belongs to the set, and the order of the sum is that of the index
(`Store.sparseQuery_congr_terms`).

On the side of the documents the rows that match are the terms of the text that belong to the query,
and they stand in ascending order (`Session.EditedRun.arranged`).  So they are determined by the
frequencies of the query's lexemes in the text (`matchedTerms_eq`), and the sum with them, although
the addition of floating-point numbers is not associative.
-/

namespace HybridRetrieval

open LexemeRow (ofNode)

/-- The texts have the same lexemes, in whatever order and however often. -/
def Analyzer.SameLexemes (a : Analyzer) (text other : String) : Prop :=
  ∀ x, x ∈ a.lexemes text ↔ x ∈ a.lexemes other

/-- The index has one row for each term of each stored text, and no other. -/
def IsIndexOfRows (a : Analyzer) (stored : List DataRow) (rows : List LexemeRow) : Prop :=
  ∀ row, row ∈ rows ↔ ∃ d ∈ stored, ∃ text, d.nodeId = .text row.nodeId ∧ d.text = .text text ∧
    (a.documentTerms text).lookup row.lexeme = some row.frequency

/-! ## The text of a query -/

namespace Store

/-- Only the set of the terms matters for what matches. -/
theorem matching_congr_terms {terms others : List String} (h : ∀ x, x ∈ terms ↔ x ∈ others) :
    matching terms = matching others := by
  have hcontains : ∀ x, terms.contains x = others.contains x := fun x => by
    rw [Bool.eq_iff_iff, List.contains_iff_mem, List.contains_iff_mem, h]
  funext lexemes row
  simp only [matching, hcontains]

/-- **Only the lexemes of a text matter** for a sparse search. -/
theorem sparseQuery_congr_terms {s : Store} {text other : String}
    (h : s.params.analyzer.SameLexemes text other) (limit : Nat) (filters : List Filter)
    (c : Connection) :
    s.sparseQuery text limit filters c = s.sparseQuery other limit filters c := by
  have hterms : ∀ x, x ∈ s.params.analyzer.queryTerms text ↔
      x ∈ s.params.analyzer.queryTerms other := fun x => by
    rw [Analyzer.mem_queryTerms, Analyzer.mem_queryTerms, h x]
  have hempty : (s.params.analyzer.queryTerms text).isEmpty =
      (s.params.analyzer.queryTerms other).isEmpty := by
    rw [Bool.eq_iff_iff, List.isEmpty_iff, List.isEmpty_iff, List.eq_nil_iff_forall_not_mem,
      List.eq_nil_iff_forall_not_mem]
    exact forall_congr' fun x => not_congr (hterms x)
  -- the terms are distinct, so there are as many of them in both texts
  have hperm : (s.params.analyzer.queryTerms text).Perm (s.params.analyzer.queryTerms other) :=
    (List.perm_ext_iff_of_nodup (Analyzer.nodup_queryTerms _ _)
      (Analyzer.nodup_queryTerms _ _)).mpr hterms
  simp only [sparseQuery, sparseHits, hempty, StatementSize.sparse_congr hperm.length_eq,
    matching_congr_terms hterms]

/-! ## The text of a document -/

/-- The terms that match a data row, each with its frequency. -/
def matchedTerms (terms : List String) (rows : List LexemeRow) (d : DataRow) :
    List (String × Nat) :=
  (matching terms rows d).map fun l => (l.lexeme, l.frequency)

/-- The rank is a sum over the frequencies of the terms that match. -/
theorem rank_matching_eq (terms : List String) (rows : List LexemeRow) (d : DataRow) :
    rank (matching terms rows d) =
      .sum ((matchedTerms terms rows d).map fun term => rankOfFrequency term.2) := by
  rw [rank, matchedTerms, List.map_map]
  rfl

/-- Terms in the order of their lexemes are determined by which they are. -/
theorem eq_of_ascending {xs ys : List (String × Nat)} (hx : (xs.map Prod.fst).Pairwise (· < ·))
    (hy : (ys.map Prod.fst).Pairwise (· < ·)) (h : ∀ term, term ∈ xs ↔ term ∈ ys) : xs = ys := by
  rw [List.pairwise_map] at hx hy
  have hnodup : ∀ {zs : List (String × Nat)}, zs.Pairwise (fun x y => x.1 < y.1) → zs.Nodup :=
    fun hz => hz.imp fun {x y} (hlt : x.1 < y.1) (heq : x = y) =>
      String.lt_irrefl y.1 (heq ▸ hlt)
  refine List.Perm.eq_of_pairwise (fun x y _ _ hxy hyx => ?_) hx hy
    ((List.perm_ext_iff_of_nodup (hnodup hx) (hnodup hy)).mpr h)
  exact absurd (String.lt_trans hxy hyx) (String.lt_irrefl x.1)

section Index

variable {a : Analyzer} {stored : List DataRow} {rows : List LexemeRow}
  (hkeyed : (stored.map DataRow.nodeId).Nodup) (hascending : LexemeRow.Ascending rows)
  (hindex : IsIndexOfRows a stored rows) (terms : List String) {d : DataRow} (hd : d ∈ stored)
  {id text : String} (hid : d.nodeId = .text id) (htext : d.text = .text text)

include hascending hid in
/-- The terms that match stand in order. -/
theorem pairwise_matchedTerms :
    ((matchedTerms terms rows d).map Prod.fst).Pairwise (· < ·) := by
  have hkeys : (matchedTerms terms rows d).map Prod.fst =
      ((ofNode id rows).filter fun l => terms.contains l.lexeme).map LexemeRow.lexeme := by
    rw [matchedTerms, matching_of_nodeId hid, List.map_map]
    rfl
  rw [hkeys]
  exact (hascending id).sublist (List.filter_sublist.map _)

include hkeyed hindex hd hid htext

/-- **The terms that match** are the lexemes of the query that occur in the stored text, with their
frequencies there. -/
theorem mem_matchedTerms_iff {x : String} {n : Nat} :
    (x, n) ∈ matchedTerms terms rows d ↔ x ∈ terms ∧ 0 < n ∧ (a.lexemes text).count x = n := by
  rw [← Analyzer.mem_documentTerms_iff, matchedTerms, matching_of_nodeId hid, List.mem_map]
  constructor
  · rintro ⟨row, hrow, hterm⟩
    obtain ⟨rfl, rfl⟩ := Prod.mk.inj hterm
    obtain ⟨hnode, hquery⟩ := List.mem_filter.mp hrow
    obtain ⟨hrow, hsame⟩ := List.mem_filter.mp hnode
    obtain ⟨other, hother, found, hotherId, hfound, hlookup⟩ := (hindex row).mp hrow
    -- the row is of no other data row, since no two have one identifier
    have hown : other = d := List.inj_on_of_nodup_map hkeyed hother hd
      (by rw [hotherId, hid, of_decide_eq_true hsame])
    rw [hown, htext] at hfound
    obtain rfl := Cell.text.inj hfound
    exact ⟨List.contains_iff_mem.mp hquery, Analyzer.lookup_documentTerms.mp hlookup⟩
  · rintro ⟨hquery, hterm⟩
    refine ⟨⟨id, x, n⟩, List.mem_filter.mpr ⟨List.mem_filter.mpr ⟨?_, by simp⟩, ?_⟩, rfl⟩
    · exact (hindex _).mpr ⟨d, hd, text, hid, htext, Analyzer.lookup_documentTerms.mpr hterm⟩
    · exact List.contains_iff_mem.mpr hquery

include hascending

/-- **Texts in which the lexemes of the query are equally frequent** are matched by the same terms,
in the same order. -/
theorem matchedTerms_eq {d' : DataRow} (hd' : d' ∈ stored) {id' text' : String}
    (hid' : d'.nodeId = .text id') (htext' : d'.text = .text text')
    (hcount : ∀ x ∈ terms, (a.lexemes text).count x = (a.lexemes text').count x) :
    matchedTerms terms rows d = matchedTerms terms rows d' := by
  refine eq_of_ascending (pairwise_matchedTerms hascending terms hid)
    (pairwise_matchedTerms hascending terms hid') fun ⟨x, n⟩ => ?_
  rw [mem_matchedTerms_iff hkeyed hindex terms hd hid htext,
    mem_matchedTerms_iff hkeyed hindex terms hd' hid' htext']
  exact and_congr_right fun hx => by rw [hcount x hx]

end Index

/-- A hit of a sparse search is a stored row that is matched, with its rank. -/
theorem of_mem_sparseHits {terms : List String} {limit : Nat} {filters : List Filter}
    {rows : List LexemeRow} {stored : List DataRow} {hits : List Hit}
    (h : sparseHits terms limit filters rows stored = .ok hits) {hit : Hit} (hhit : hit ∈ hits) :
    ∃ d ∈ stored, d.toNode = .ok hit.1 ∧ matchedTerms terms rows d ≠ [] ∧
      hit.2 = (rank (matching terms rows d)).toSingle := by
  unfold sparseHits at h
  split at h
  · obtain rfl := Except.ok.inj h
    cases hhit
  · obtain ⟨scored, hscored, h⟩ := bind_eq_ok_iff.mp h
    obtain ⟨x, hx, hnode, hsimilarity⟩ := of_mem_toHits h hhit
    obtain ⟨hrow, -, hrank⟩ := of_mem_scoreRows hscored
      (List.mem_mergeSort.mp (List.mem_of_mem_take hx))
    obtain ⟨hstored, hmatched⟩ := List.mem_filter.mp hrow
    refine ⟨x.1, hstored, hnode, ?_, ?_⟩
    · simpa [matchedTerms] using hmatched
    · rw [← Except.ok.inj hsimilarity, Except.ok.inj hrank]

/-- Each scored row makes a hit. -/
theorem exists_hit_of_mem {α : Type} {similarity : α → Except Error Single}
    {scored : List (Scored α)} {hits : List Hit} (h : toHits similarity scored = .ok hits)
    {x : Scored α} (hx : x ∈ scored) {node : Node} (hnode : x.1.toNode = .ok node) :
    ∃ hit ∈ hits, hit.1 = node := by
  induction scored generalizing hits with
  | nil => cases hx
  | cons first rest ih =>
      obtain ⟨found, hfound, h⟩ := bind_eq_ok_iff.mp h
      obtain ⟨y, -, h⟩ := bind_eq_ok_iff.mp h
      obtain ⟨more, hmore, h⟩ := bind_eq_ok_iff.mp h
      obtain rfl := Except.ok.inj h
      rcases List.mem_cons.mp hx with rfl | hx
      · exact ⟨_, List.mem_cons_self, Except.ok.inj (hfound.symm.trans hnode)⟩
      · obtain ⟨hit, hhit, heq⟩ := ih hmore hx
        exact ⟨hit, List.mem_cons_of_mem _ hhit, heq⟩

/-- Without filters every row is scored. -/
theorem scoreRows_nil_ok {α : Type} (score : DataRow → α) (rows : List DataRow) :
    scoreRows [] (fun row => .ok (score row)) rows =
      .ok (rows.map fun row => (row, score row)) := by
  induction rows with
  | nil => rfl
  | cons row rest ih =>
      rw [scoreRows, ih]
      rfl

/-- Without filters and with room a matched row makes a hit. -/
theorem exists_hit_of_matched {terms : List String} {limit : Nat} {rows : List LexemeRow}
    {stored : List DataRow} (hroom : stored.length ≤ limit) {hits : List Hit}
    (h : sparseHits terms limit [] rows stored = .ok hits) {d : DataRow} (hd : d ∈ stored)
    (hmatched : matchedTerms terms rows d ≠ []) {node : Node} (hnode : d.toNode = .ok node) :
    ∃ hit ∈ hits, hit.1 = node := by
  have hlimit : limit ≠ 0 := by
    have hpos := List.length_pos_of_mem hd
    omega
  simp only [sparseHits, hlimit, if_false, scoreRows_nil_ok, bind, Except.bind] at h
  refine exists_hit_of_mem h (x := (d, rank (matching terms rows d))) ?_ hnode
  rw [List.take_of_length_le]
  · refine List.mem_mergeSort.mpr (List.mem_map.mpr ⟨d, List.mem_filter.mpr ⟨hd, ?_⟩, rfl⟩)
    simpa [matchedTerms] using hmatched
  · rw [List.length_mergeSort, List.length_map]
    exact (List.length_filter_le _ _).trans hroom

section Query

variable {s : Store} {db : Database} {stored : List DataRow}
  (hstored : db.table? s.names.data = some (.data stored)) {rows : List LexemeRow}
  (hrows : db.table? s.names.lexemes = some (.lexemes rows)) {text : String} {limit : Nat}
include hstored hrows

/-- What a sparse query that succeeds finds: nothing for a text without lexemes, else the hits of
the search. -/
theorem sparseQuery_ok_hits {filters : List Filter} {r : QueryResult}
    (h : s.sparseQuery text limit filters (some db) = .ok r) :
    (s.params.analyzer.queryTerms text = [] ∧ r = .ofHits []) ∨
      ∃ hits, sparseHits (s.params.analyzer.queryTerms text) limit filters rows stored =
        .ok hits ∧ r = .ofHits hits := by
  obtain ⟨hempty, rfl⟩ | ⟨-, lexemes, hits, hlexemes, hhits, rfl⟩ := sparseQuery_ok h
  · exact .inl ⟨List.isEmpty_iff.mp hempty, rfl⟩
  · obtain rfl := Except.ok.inj (hlexemes.symm.trans (Database.lexemeRows_eq_ok hrows))
    rw [rowsBehind, Database.rowsOf_eq hstored] at hhits
    exact .inr ⟨hits, hhits, rfl⟩

/-- A hit of a sparse query is a stored row that is matched, with its rank. -/
theorem of_mem_hits_sparse {filters : List Filter} {r : QueryResult}
    (h : s.sparseQuery text limit filters (some db) = .ok r) {hit : Hit} (hhit : hit ∈ r.hits) :
    ∃ d ∈ stored, d.toNode = .ok hit.1 ∧
      matchedTerms (s.params.analyzer.queryTerms text) rows d ≠ [] ∧
      hit.2 = (rank (matching (s.params.analyzer.queryTerms text) rows d)).toSingle := by
  obtain ⟨-, rfl⟩ | ⟨hits, hhits, rfl⟩ := sparseQuery_ok_hits hstored hrows h
  · cases hhit
  · rw [QueryResult.hits_ofHits] at hhit
    exact of_mem_sparseHits hhits hhit

/-- **Without filters and with room** a sparse query lists the rows that are matched. -/
theorem mem_nodes_sparse_iff (hkeyed : (stored.map DataRow.nodeId).Nodup)
    (hroom : stored.length ≤ limit) {r : QueryResult}
    (h : s.sparseQuery text limit [] (some db) = .ok r) {d : DataRow} (hd : d ∈ stored)
    {node : Node} (hnode : d.toNode = .ok node) :
    node ∈ r.nodes ↔ matchedTerms (s.params.analyzer.queryTerms text) rows d ≠ [] := by
  obtain ⟨hnone, rfl⟩ | ⟨hits, hhits, rfl⟩ := sparseQuery_ok_hits hstored hrows h
  · refine iff_of_false List.not_mem_nil (not_not.mpr ?_)
    simp [matchedTerms, matching, hnone]
  · constructor
    · intro hmem
      obtain ⟨hit, hhit, rfl⟩ := List.mem_map.mp hmem
      obtain ⟨other, hother, hfound, hmatched, -⟩ := of_mem_sparseHits hhits hhit
      obtain rfl := List.inj_on_of_nodup_map hkeyed hother hd
        ((nodeId_of_toNode hfound).trans (nodeId_of_toNode hnode).symm)
      exact hmatched
    · intro hmatched
      obtain ⟨hit, hhit, rfl⟩ := exists_hit_of_matched hroom hhits hd hmatched hnode
      exact List.mem_map_of_mem hhit

end Query

end Store

/-- A sparse query for a text. -/
structure Query.IsSparseFor (q : Query) (text : String) : Prop where
  mode : q.mode = .sparse
  text : q.text = some text

/-- **Sparse ranking depends only on the terms that match.**  In any state of a session take an open
hybrid store whose index has one row for each term of each stored text, and sparse queries for two
texts with the same lexemes.  With the same limit and filters they have the same answer.  With any
limits and filters, two nodes in whose texts all lexemes of the query are equally frequent come with
the same similarity, whatever else their texts say; and without filters and with room for all rows
both are listed or neither. -/
theorem sparse_ranking {start s : Session} (hstart : start.Fresh)
    (run : Session.EditedRun start s) {name : String} {handle : Store × Nat}
    (hhandle : s.handle? name = some handle) {db : Database}
    (hdb : s.connection handle.2 = some db) (hhybrid : handle.1.hybrid = true) :
    ∃ stored rows, db.table? handle.1.names.data = some (.data stored) ∧
      db.table? handle.1.names.lexemes = some (.lexemes rows) ∧
      ∀ a, IsIndexOfRows a stored rows → ∀ q q' text text',
        q.IsSparseFor text → q'.IsSparseFor text' →
        handle.1.params.analyzer.SameLexemes text text' →
        (q.effectiveSparseTopK = q'.effectiveSparseTopK → q.filterList = q'.filterList →
          handle.1.query q (s.connection handle.2) = handle.1.query q' (s.connection handle.2)) ∧
        (∀ r r', handle.1.query q (s.connection handle.2) = .ok r →
          handle.1.query q' (s.connection handle.2) = .ok r' →
          ∀ hit ∈ r.hits, ∀ hit' ∈ r'.hits, (∀ x ∈ handle.1.params.analyzer.lexemes text,
            (a.lexemes hit.1.text).count x = (a.lexemes hit'.1.text).count x) →
          hit.2 = hit'.2) ∧
        ∀ r, handle.1.query q (s.connection handle.2) = .ok r → q.filterList = [] →
          stored.length ≤ q.effectiveSparseTopK → ∀ d ∈ stored, ∀ d' ∈ stored, ∀ node node',
          d.toNode = .ok node → d'.toNode = .ok node' →
          (∀ x ∈ handle.1.params.analyzer.lexemes text,
            (a.lexemes node.text).count x = (a.lexemes node'.text).count x) →
          (node ∈ r.nodes ↔ node' ∈ r.nodes) := by
  have hupheld := run.arranged hstart
  have hequipped := (hupheld.handles name handle hhandle).2 db hdb
  obtain ⟨stored, hstored⟩ := hequipped.data
  obtain ⟨rows, hrows⟩ := hequipped.index hhybrid
  have harranged := (hupheld.good_of_has ⟨wellShaped_empty, Database.arranged_empty⟩
    (Or.inr ⟨_, hdb⟩)).2
  have hkeyed : (stored.map DataRow.nodeId).Nodup := harranged _ _ hstored
  refine ⟨stored, rows, hstored, hrows, fun a hindex q q' text text' hq hq' hsame => ?_⟩
  have hterms : ∀ {d d' : DataRow} {node node' : Node}, d ∈ stored → d' ∈ stored →
      d.toNode = .ok node → d'.toNode = .ok node' →
      (∀ x ∈ handle.1.params.analyzer.lexemes text,
        (a.lexemes node.text).count x = (a.lexemes node'.text).count x) →
      Store.matchedTerms (handle.1.params.analyzer.queryTerms text) rows d =
        Store.matchedTerms (handle.1.params.analyzer.queryTerms text) rows d' := by
    intro d d' node node' hd hd' hnode hnode' hcount
    exact Store.matchedTerms_eq hkeyed (harranged _ _ hrows) hindex _ hd
      (Store.nodeId_of_toNode hnode) (Store.text_of_toNode hnode) hd'
      (Store.nodeId_of_toNode hnode') (Store.text_of_toNode hnode')
      fun x hx => hcount x (Analyzer.mem_queryTerms.mp hx)
  rw [Store.query_sparse hhybrid hq.mode hq.text, Store.query_sparse hhybrid hq'.mode hq'.text,
    ← Store.sparseQuery_congr_terms hsame]
  refine ⟨fun hlimit hfilters => by rw [hlimit, hfilters], ?_, ?_⟩
  · intro r r' hr hr' hit hhit hit' hhit' hcount
    rw [hdb] at hr hr'
    obtain ⟨d, hd, hnode, -, hrank⟩ := Store.of_mem_hits_sparse hstored hrows hr hhit
    obtain ⟨d', hd', hnode', -, hrank'⟩ := Store.of_mem_hits_sparse hstored hrows hr' hhit'
    rw [hrank, hrank', Store.rank_matching_eq, Store.rank_matching_eq,
      hterms hd hd' hnode hnode' hcount]
  · intro r hr hfilters hroom d hd d' hd' node node' hnode hnode' hcount
    rw [hdb, hfilters] at hr
    rw [Store.mem_nodes_sparse_iff hstored hrows hkeyed hroom hr hd hnode,
      Store.mem_nodes_sparse_iff hstored hrows hkeyed hroom hr hd' hnode',
      hterms hd hd' hnode hnode' hcount]

/-! ## A sample -/

/-- Two texts in which foxes and hens are equally frequent. -/
def Item.foxAndHen : List Item :=
  [.ofText "a" "fox, hen", .ofText "b" "The hen saw a red fox!"]

/-- A database with these texts and their index. -/
def Database.ofFoxAndHen : Database :=
  ⟨[("data_t", .data (Item.foxAndHen.map DataRow.ofItem)),
    ("data_t_lexemes", .lexemes ((Write.add Item.foxAndHen).reindex .english [] []))],
    ["idx_data_t_ref_doc", "idx_data_t_lexemes_lexeme"]⟩

/-- A session in which a hybrid store in memory is opened and given these texts. -/
def Session.ofFoxAndHen : Session :=
  [Operation.openStore "h" (Store.ofAnalyzer .english).params,
    .write "h" (.add Item.foxAndHen)].foldl Session.perform { disk := .empty }

theorem Item.eq_of_mem_foxAndHen {item : Item} (h : item ∈ foxAndHen) :
    item = .ofText "a" "fox, hen" ∨ item = .ofText "b" "The hen saw a red fox!" := by
  simpa [foxAndHen] using h

theorem stocked_foxAndHen :
    Stocked ⟨"data_t", "data_t_lexemes"⟩ .ofFoxAndHen Item.foxAndHen where
  apart := ⟨by decide +kernel, by decide +kernel, by rfl, by rfl⟩
  data := rfl
  distinct := by decide
  index _ h := ⟨_, (Option.some.inj h).symm⟩

theorem covers_foxAndHen : Covers (fun _ => .english) Item.foxAndHen
    ((Write.add Item.foxAndHen).reindex .english [] []) := by
  have hnone : Covers (fun _ => .english) [] [] := fun _ => rfl
  have hwritten := hnone.write List.nodup_nil .english (.add Item.foxAndHen)
  rwa [Write.analyzersAfter_const] at hwritten

/-- The query for foxes and hens succeeds, and in all nodes that it lists they occur once. -/
theorem exists_result_foxAndHen :
    ∃ r, (Store.ofAnalyzer .english).query (.sparse "foxes and hens" 2 [])
        (some .ofFoxAndHen) = .ok r ∧ r.nodes.length = 2 ∧
      ∀ node ∈ r.nodes, ∀ x ∈ ["fox", "hen"], (Analyzer.english.lexemes node.text).count x = 1 := by
  have hread : ∀ item ∈ Item.foxAndHen, item.node.WithinDepth := by
    intro item hitem
    rcases Item.eq_of_mem_foxAndHen hitem with rfl | rfl <;>
      exact ⟨by decide +kernel, by decide +kernel⟩
  have hasks : (Query.sparse "foxes and hens" 2 []).AsksFor "foxes and hens"
      Item.foxAndHen.length := ⟨rfl, rfl, rfl, by decide⟩
  obtain ⟨r, hr, hnodes⟩ := query_of_covers (s := .ofAnalyzer .english) rfl rfl stocked_foxAndHen
    hread rfl covers_foxAndHen hasks (by decide +kernel)
  refine ⟨r, hr, ?_, ?_⟩
  · rw [hnodes.length_eq, List.length_map]
    decide +kernel
  · intro node hnode
    obtain ⟨item, hitem, rfl⟩ := List.mem_map.mp (hnodes.mem_iff.mp hnode)
    rcases Item.eq_of_mem_foxAndHen (List.mem_of_mem_filter hitem) with rfl | rfl <;>
      decide +kernel

/-- Two queries for foxes and hens have the same answer, with one similarity for both texts. -/
theorem sparse_ranking_foxAndHen :
    ∃ r, (Store.ofAnalyzer .english).query (.sparse "foxes and hens" 2 [])
        (Session.ofFoxAndHen.connection 0) = .ok r ∧
      (Store.ofAnalyzer .english).query (.sparse "HEN, hen, the fox" 2 [])
        (Session.ofFoxAndHen.connection 0) = .ok r ∧ r.nodes.length = 2 ∧
      ∀ hit ∈ r.hits, ∀ hit' ∈ r.hits, hit.2 = hit'.2 := by
  have hhandle : Session.ofFoxAndHen.handle? "h" = some (.ofAnalyzer .english, 0) := by rfl
  have hopen : Session.ofFoxAndHen.connection 0 = some .ofFoxAndHen := by rfl
  obtain ⟨stored, rows, hstored, hrows, hranking⟩ := sparse_ranking Session.fresh_empty
    (Session.anyRun_foldl _ _).edited hhandle hopen rfl
  obtain rfl := Table.data.inj (Option.some.inj hstored)
  obtain rfl := Table.lexemes.inj (Option.some.inj hrows)
  have hfirst : Analyzer.english.lexemes "foxes and hens" = ["fox", "hen"] := by decide +kernel
  have hsecond : Analyzer.english.lexemes "HEN, hen, the fox" = ["hen", "hen", "fox"] := by
    decide +kernel
  have hsame : Analyzer.english.SameLexemes "foxes and hens" "HEN, hen, the fox" := by
    intro x
    rw [hfirst, hsecond]
    simp only [List.mem_cons, List.not_mem_nil, or_false]
    tauto
  obtain ⟨hanswer, hsimilarity, -⟩ := hranking .english
    (covers_foxAndHen.mem_iff_ofItem stocked_foxAndHen.distinct)
    (.sparse "foxes and hens" 2 []) (.sparse "HEN, hen, the fox" 2 []) _ _ ⟨rfl, rfl⟩ ⟨rfl, rfl⟩
    hsame
  obtain ⟨r, hr, hlength, hcount⟩ := exists_result_foxAndHen
  refine ⟨r, hr, (hanswer rfl rfl).symm.trans hr, hlength, ?_⟩
  intro hit hhit hit' hhit'
  refine hsimilarity r r hr ((hanswer rfl rfl).symm.trans hr) hit hhit hit' hhit' fun x hx => ?_
  rw [hcount _ (List.of_mem_zip hhit).1 x (hfirst ▸ hx),
    hcount _ (List.of_mem_zip hhit').1 x (hfirst ▸ hx)]

end HybridRetrieval
