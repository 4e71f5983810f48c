import HybridRetrieval.Proofs.Session.RefusedKeys
import HybridRetrieval.Proofs.Session.SparseRanking
/-!
# Rows that share a lexeme with a text

What does a sparse query for a text, without filters and with room for all rows, answer?  If its
lexemes fit into a statement and the index is in step, it comes upon the stored rows whose texts
share a lexeme with its own (`matchedTerms_ne_nil_iff`).  It succeeds exactly if all of these can be
read back (`toHits_ok_iff`), and then it lists their nodes (`Store.FindsSharing`).  So it is in
every state of a session, also after edits (`Session.EditedRun.findsSharing`).
-/

namespace HybridRetrieval

/-- The row is of a node and has a text that shares a lexeme with another one. -/
def DataRow.SharesLexeme (a : Analyzer) (text : String) (d : DataRow) : Prop :=
  ∃ id other, d.nodeId = .text id ∧ d.text = .text other ∧
    sharesLexeme (a.lexemes text) (a.lexemes other) = true

/-- What it means for a row with an identifier and a text to share a lexeme. -/
theorem DataRow.sharesLexeme_iff_of_text {a : Analyzer} {text id other : String} {d : DataRow}
    (hid : d.nodeId = .text id) (htext : d.text = .text other) :
    d.SharesLexeme a text ↔ sharesLexeme (a.lexemes text) (a.lexemes other) = true := by
  simp [SharesLexeme, hid, htext]

/-- The row can be read back as a node. -/
def DataRow.IsReadable (d : DataRow) : Prop := ∃ node, d.toNode = .ok node

namespace Store

/-- **The answer of a search for the stored rows that share a lexeme with a text.** -/
structure FindsSharing (a : Analyzer) (stored : List DataRow) (text : String)
    (answer : Except Error QueryResult) : Prop where
  succeeds : (∀ d ∈ stored, d.SharesLexeme a text → d.IsReadable) → ∃ r, answer = .ok r
  fails : (∃ d ∈ stored, d.SharesLexeme a text ∧ ¬ d.IsReadable) → answer = .error .storage
  lists : ∀ r, answer = .ok r → ∀ d ∈ stored, ∀ node, d.toNode = .ok node →
    (node ∈ r.nodes ↔ d.SharesLexeme a text)

/-- **The rows with a node among those that are found** are the ones that share a lexeme, if these
can be read back. -/
theorem FindsSharing.exists_node_iff {a : Analyzer} {stored : List DataRow} {text : String}
    {answer : Except Error QueryResult} (h : FindsSharing a stored text answer)
    (hread : ∀ d ∈ stored, d.SharesLexeme a text → d.IsReadable) :
    ∃ r, answer = .ok r ∧ ∀ d ∈ stored,
      ((∃ node, d.toNode = .ok node ∧ node ∈ r.nodes) ↔ d.SharesLexeme a text) := by
  obtain ⟨r, hr⟩ := h.succeeds hread
  refine ⟨r, hr, fun d hd => ⟨?_, fun hshares => ?_⟩⟩
  · rintro ⟨node, hnode, hmem⟩
    exact (h.lists r hr d hd node hnode).mp hmem
  · obtain ⟨node, hnode⟩ := hread d hd hshares
    exact ⟨node, hnode, (h.lists r hr d hd node hnode).mpr hshares⟩

/-- Scored rows make hits exactly if all of them can be read back. -/
theorem toHits_ok_iff {α : Type} (similarity : α → Single) (scored : List (Scored α)) :
    (∃ hits, toHits (fun x => .ok (similarity x)) scored = .ok hits) ↔
      ∀ x ∈ scored, x.1.IsReadable := by
  induction scored with
  | nil => exact iff_of_true ⟨[], rfl⟩ fun x hx => by cases hx
  | cons first rest ih =>
      rw [List.forall_mem_cons, ← ih]
      constructor
      · rintro ⟨hits, h⟩
        obtain ⟨node, hnode, h⟩ := bind_eq_ok_iff.mp h
        obtain ⟨_, -, h⟩ := bind_eq_ok_iff.mp h
        obtain ⟨more, hmore, -⟩ := bind_eq_ok_iff.mp h
        exact ⟨⟨node, hnode⟩, more, hmore⟩
      · rintro ⟨⟨node, hnode⟩, more, hmore⟩
        refine ⟨(node, similarity first.2) :: more, ?_⟩
        simp only [toHits, hnode, hmore, bind, Except.bind, pure, Except.pure]

/-- Without filters and with room for all rows the hits of a sparse search are those of the rows
that are matched, so it succeeds exactly if these can be read back. -/
theorem sparseHits_ok_iff (terms : List String) (rows : List LexemeRow) {limit : Nat}
    {stored : List DataRow} (hroom : stored.length ≤ limit) :
    (∃ hits, sparseHits terms limit [] rows stored = .ok hits) ↔
      ∀ d ∈ stored, matchedTerms terms rows d ≠ [] → d.IsReadable := by
  by_cases hlimit : limit = 0
  · obtain rfl : stored = [] := List.eq_nil_of_length_eq_zero (by omega)
    simp [sparseHits, hlimit, pure, Except.pure]
  · simp only [sparseHits, hlimit, if_false, scoreRows_nil_ok, bind, Except.bind]
    rw [toHits_ok_iff, List.take_of_length_le]
    · simp only [List.mem_mergeSort, List.mem_map, List.mem_filter]
      constructor
      · intro hall d hd hmatched
        exact hall (d, _) ⟨d, ⟨hd, by simpa [matchedTerms] using hmatched⟩, rfl⟩
      · rintro hall x ⟨d, ⟨hd, hmatched⟩, rfl⟩
        exact hall d hd (by simpa [matchedTerms] using hmatched)
    · rw [List.length_mergeSort, List.length_map]
      exact (List.length_filter_le _ _).trans hroom

section Index

variable {a : Analyzer} {stored : List DataRow} {rows : List LexemeRow}
  (hkeyed : (stored.map DataRow.nodeId).Nodup) (hindex : IsIndexOfRows a stored rows)
include hkeyed hindex

/-- **A row is matched** exactly if its text shares a lexeme with the query. -/
theorem matchedTerms_ne_nil_iff (text : String) {d : DataRow} (hd : d ∈ stored) :
    matchedTerms (a.queryTerms text) rows d ≠ [] ↔ d.SharesLexeme a text := by
  constructor
  · intro hne
    obtain ⟨term, hterm⟩ := List.exists_mem_of_ne_nil _ hne
    obtain ⟨row, hrow, -⟩ := List.mem_map.mp hterm
    obtain ⟨hrow, hmatches⟩ := List.mem_filter.mp hrow
    obtain ⟨hid, hquery⟩ := Bool.and_eq_true_iff.mp hmatches
    obtain ⟨found, hfound, other, hfoundId, htext, hlookup⟩ := (hindex row).mp hrow
    -- the row of the index is of no other data row, since no two have one identifier
    obtain rfl : found = d := List.inj_on_of_nodup_map hkeyed hfound hd
      (hfoundId.trans (beq_iff_eq.mp hid).symm)
    refine ⟨row.nodeId, other, hfoundId, htext, sharesLexeme_iff.mpr ⟨row.lexeme, ?_, ?_⟩⟩
    · exact Analyzer.mem_queryTerms.mp (List.contains_iff_mem.mp hquery)
    · exact Analyzer.mem_keys_documentTerms.mp
        (List.mem_map.mpr ⟨_, Analyzer.lookup_documentTerms.mp hlookup, rfl⟩)
  · rintro ⟨id, other, hid, htext, hshares⟩
    obtain ⟨x, hx, hother⟩ := sharesLexeme_iff.mp hshares
    have hterm := (mem_matchedTerms_iff hkeyed hindex (a.queryTerms text) hd hid htext).mpr
      ⟨Analyzer.mem_queryTerms.mpr hx, List.count_pos_iff.mpr hother, rfl⟩
    exact List.ne_nil_of_mem hterm

variable {s : Store} (hanalyzer : s.params.analyzer = a) {db : Database}
  (hstored : db.table? s.names.data = some (.data stored))
  (hrows : db.table? s.names.lexemes = some (.lexemes rows))
include hanalyzer hstored hrows

/-- **A sparse search without filters and with room**, for a text with few enough lexemes, finds the
rows that share one. -/
theorem findsSharing_sparseQuery {text : String} {limit : Nat} (hroom : stored.length ≤ limit)
    (hfew : (a.queryTerms text).length < StatementSize.maxValues) :
    FindsSharing a stored text (s.sparseQuery text limit [] (some db)) := by
  subst hanalyzer
  have hmatched := fun d (hd : d ∈ stored) =>
    matchedTerms_ne_nil_iff hkeyed hindex text hd
  by_cases hlexemes : s.params.analyzer.lexemes text = []
  · have hnone : ∀ d : DataRow, ¬ d.SharesLexeme s.params.analyzer text := by
      rintro d ⟨id, other, -, -, hshares⟩
      simp [sharesLexeme, hlexemes] at hshares
    rw [sparseQuery_of_noLexeme hlexemes]
    refine ⟨fun _ => ⟨_, rfl⟩, ?_, ?_⟩
    · rintro ⟨d, -, hshares, -⟩
      exact absurd hshares (hnone d)
    · rintro r hr d - node -
      obtain rfl := Except.ok.inj hr
      exact iff_of_false List.not_mem_nil (hnone d)
  · have hsize := StatementSize.accepted_sparse_nil_iff.mpr hfew
    have hanswer := sparseQuery_of_accepted hlexemes rfl hsize hstored hrows limit
    have hok := sparseHits_ok_iff (s.params.analyzer.queryTerms text) rows hroom
    constructor
    · intro hread
      obtain ⟨hits, hhits⟩ := hok.mpr fun d hd hne => hread d hd ((hmatched d hd).mp hne)
      exact ⟨.ofHits hits, by rw [hanswer, hhits]; rfl⟩
    · rintro ⟨d, hd, hshares, hunread⟩
      rw [hanswer]
      cases hhits : sparseHits (s.params.analyzer.queryTerms text) limit [] rows stored with
      | ok hits => exact absurd (hok.mp ⟨hits, hhits⟩ d hd ((hmatched d hd).mpr hshares)) hunread
      | error e =>
          rw [sparseHits_failsInStorage _ _ _ _ _ e hhits]
          rfl
    · intro r hr d hd node hnode
      rw [mem_nodes_sparse_iff hstored hrows hkeyed hroom hr hd hnode, hmatched d hd]

end Index

end Store

/-- **In every state of a session**, also after edits, a sparse query through an open hybrid store
whose index is in step finds the rows that share a lexeme with its text, unless the text has too
many distinct lexemes: then it fails. -/
theorem Session.EditedRun.findsSharing {start s : Session} (hstart : start.Fresh)
    (run : Session.EditedRun start s) {name : String} {handle : Store × Nat}
    (hhandle : s.handle? name = some handle) {db : Database}
    (hdb : s.connection handle.2 = some db) (hhybrid : handle.1.hybrid = true) :
    ∃ stored rows, db.table? handle.1.names.data = some (.data stored) ∧
      db.table? handle.1.names.lexemes = some (.lexemes rows) ∧
      (IsIndexOfRows handle.1.params.analyzer stored rows →
        ∀ q text, q.AsksFor text stored.length →
          ((handle.1.params.analyzer.queryTerms text).length < StatementSize.maxValues →
            Store.FindsSharing handle.1.params.analyzer stored text
              (handle.1.query q (s.connection handle.2))) ∧
          (StatementSize.maxValues ≤ (handle.1.params.analyzer.queryTerms text).length →
            handle.1.query q (s.connection handle.2) = .error .storage)) := by
  have hupheld := run.arranged hstart
  have hequipped := (hupheld.handles name handle hhandle).2 db hdb
  obtain ⟨stored, hstored⟩ := hequipped.data
  obtain ⟨rows, hrows⟩ := hequipped.index hhybrid
  have harranged := (hupheld.good_of_has ⟨wellShaped_empty, Database.arranged_empty⟩
    (Or.inr ⟨_, hdb⟩)).2
  have hkeyed : (stored.map DataRow.nodeId).Nodup := harranged _ _ hstored
  refine ⟨stored, rows, hstored, hrows, fun hindex q text hq => ?_⟩
  rw [hdb]
  refine ⟨fun hfew => ?_, fun hmany => hq.eq_storage hhybrid hmany db⟩
  rw [Store.query_sparse hhybrid hq.mode hq.text, hq.filters]
  exact Store.findsSharing_sparseQuery hkeyed hindex rfl hstored hrows hq.room hfew

/-! ## A sample -/

/-- The index of items that are all new is in step. -/
theorem isIndexOfRows_ofHybrid {items : List Item} (hnew : (Write.add items).applyTo [] = items)
    (hdistinct : (items.map Item.id).Nodup) :
    IsIndexOfRows .english (items.map DataRow.ofItem)
      ((Write.add items).reindex .english [] []) := by
  have hnone : Covers (fun _ => .english) [] [] := fun _ => rfl
  have hwritten := hnone.write List.nodup_nil .english (.add items)
  rw [Write.analyzersAfter_const, hnew] at hwritten
  exact hwritten.mem_iff_ofItem hdistinct

/-- A query through the store of the sample finds the items that share a lexeme with its text, if it
has few enough. -/
theorem findsSharing_ofHybrid {items : List Item}
    (hhandle : (Session.ofHybrid items).handle? "h" = some (.ofAnalyzer .english, 0))
    (hdb : (Session.ofHybrid items).connection 0 = some (.ofHybrid items))
    (hnew : (Write.add items).applyTo [] = items) (hdistinct : (items.map Item.id).Nodup)
    {q : Query} {text : String} (hq : q.AsksFor text items.length)
    (hfew : (Analyzer.english.queryTerms text).length < StatementSize.maxValues) :
    Store.FindsSharing .english (items.map DataRow.ofItem) text
      ((Store.ofAnalyzer .english).query q ((Session.ofHybrid items).connection 0)) := by
  obtain ⟨stored, rows, hstored, hrows, hfinds⟩ :=
    (Session.anyRun_foldl _ _).edited.findsSharing Session.fresh_empty hhandle hdb rfl
  obtain rfl := Table.data.inj (Option.some.inj hstored)
  obtain rfl := Table.lexemes.inj (Option.some.inj hrows)
  refine (hfinds (isIndexOfRows_ofHybrid hnew hdistinct) q text ?_).1 hfew
  rwa [List.length_map]

end HybridRetrieval
