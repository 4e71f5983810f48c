import HybridRetrieval.Proofs.Lexeme.Numerals
import HybridRetrieval.Proofs.Lexeme.Words
import HybridRetrieval.Proofs.Store.Hits
import HybridRetrieval.Proofs.Store.Served
import HybridRetrieval.Proofs.Store.Statement
import Mathlib.Data.List.Perm.Basic
/-!
# What a sparse query finds

An index that has one row for each term of each stored text (`IsIndexOf`) gives for every item the
lexemes that it shares with the query, each once (`sharedIn`), and how frequent they are.  So the
rank of a row is a sum over the shared lexemes (`rank_matching`), and the hits are the best of the
items that share one (`sparseHits_of_index`).

From this follows what a sparse query answers if its lexemes and filters fit into a statement: the
best items by rank, cut off at the limit (`sparse_query_best`), and without filters and with room
for all of them each item that shares a lexeme (`query_of_covers`).  Otherwise it fails, whatever is
stored (`sparseQuery_of_not_accepted`).
-/

namespace HybridRetrieval

/-- Whether two lists of lexemes have one in common. -/
def sharesLexeme (xs ys : List String) : Bool := xs.any fun x => ys.contains x

theorem sharesLexeme_iff {xs ys : List String} :
    sharesLexeme xs ys = true ↔ ∃ x ∈ xs, x ∈ ys := by
  simp [sharesLexeme]

/-- The rank of a text: for each lexeme that it shares with the query, one less the reciprocal of
one more than its frequency. -/
def lexicalRank (shared ys : List String) : Double :=
  .sum (shared.map fun x => .one - .one / (.one + .ofInt (ys.count x)))

/-- One row for each term of each stored text, made by the analyzer of its node, and no other. -/
structure IsIndexOf (analyzerOf : String → Analyzer) (items : List Item)
    (rows : List LexemeRow) : Prop where
  mem_iff : ∀ row, row ∈ rows ↔ ∃ item ∈ items, item.id = row.nodeId ∧
    ((analyzerOf item.id).documentTerms item.node.text).lookup row.lexeme = some row.frequency
  nodup : (rows.map fun row => (row.nodeId, row.lexeme)).Nodup

theorem Covers.isIndexOf {analyzerOf : String → Analyzer} {items : List Item}
    {rows : List LexemeRow} (h : Covers analyzerOf items rows)
    (hdistinct : (items.map Item.id).Nodup) : IsIndexOf analyzerOf items rows :=
  ⟨fun _ => h.mem_iff hdistinct, h.nodup_keys hdistinct⟩

/-- The lexemes of a list that the index has for a node, in the order of the index. -/
def sharedIn (rows : List LexemeRow) (xs : List String) (id : String) : List String :=
  (rows.filter fun row => row.nodeId == id && xs.contains row.lexeme).map LexemeRow.lexeme

namespace IsIndexOf

variable {analyzerOf : String → Analyzer} {items : List Item} {rows : List LexemeRow}

/-- A row of a stored node counts a lexeme of its text. -/
theorem count_eq (h : IsIndexOf analyzerOf items rows) (hdistinct : (items.map Item.id).Nodup)
    {item : Item} (hitem : item ∈ items) {row : LexemeRow} (hrow : row ∈ rows)
    (hid : row.nodeId = item.id) :
    row.lexeme ∈ (analyzerOf item.id).lexemes item.node.text ∧
      ((analyzerOf item.id).lexemes item.node.text).count row.lexeme = row.frequency := by
  obtain ⟨other, hother, hsame, hterm⟩ := (h.mem_iff row).mp hrow
  obtain rfl := List.inj_on_of_nodup_map hdistinct hother hitem (hsame.trans hid)
  have hmem := Analyzer.lookup_documentTerms.mp hterm
  exact ⟨Analyzer.mem_keys_documentTerms.mp (List.mem_map.mpr ⟨_, hmem, rfl⟩),
    Analyzer.count_of_mem_documentTerms hmem⟩

/-- What the index gives for a stored node are the shared lexemes. -/
theorem mem_sharedIn (h : IsIndexOf analyzerOf items rows) (hdistinct : (items.map Item.id).Nodup)
    {item : Item} (hitem : item ∈ items) (xs : List String) (x : String) :
    x ∈ sharedIn rows xs item.id ↔ x ∈ xs ∧ x ∈ (analyzerOf item.id).lexemes item.node.text := by
  simp only [sharedIn, List.mem_map, List.mem_filter, Bool.and_eq_true, beq_iff_eq,
    List.contains_iff_mem]
  constructor
  · rintro ⟨row, ⟨hrow, hid, hx⟩, rfl⟩
    exact ⟨hx, (h.count_eq hdistinct hitem hrow hid).1⟩
  · rintro ⟨hx, hmem⟩
    obtain ⟨term, hterm, rfl⟩ := List.mem_map.mp (Analyzer.mem_keys_documentTerms.mpr hmem)
    refine ⟨⟨item.id, term.1, term.2⟩, ⟨?_, rfl, hx⟩, rfl⟩
    exact (h.mem_iff _).mpr ⟨item, hitem, rfl, Analyzer.lookup_documentTerms.mpr hterm⟩

/-- The index gives each lexeme of a node once. -/
theorem nodup_sharedIn (h : IsIndexOf analyzerOf items rows) (xs : List String) (id : String) :
    (sharedIn rows xs id).Nodup := by
  have hkeys := h.nodup.sublist ((List.filter_sublist (l := rows)
    (p := fun row => row.nodeId == id && xs.contains row.lexeme)).map _)
  have hsame : (rows.filter fun row => row.nodeId == id && xs.contains row.lexeme).map
      (fun row => (row.nodeId, row.lexeme)) = (sharedIn rows xs id).map fun x => (id, x) := by
    rw [sharedIn, List.map_map]
    apply List.map_congr_left
    intro row hrow
    have hid : row.nodeId = id := by
      have hboth := (List.mem_filter.mp hrow).2
      rw [Bool.and_eq_true, beq_iff_eq] at hboth
      exact hboth.1
    rw [hid]
    rfl
  rw [hsame] at hkeys
  exact hkeys.of_map

end IsIndexOf

/-- The items of which the index holds a lexeme of a text. -/
def indexedFor (a : Analyzer) (analyzerOf : String → Analyzer) (text : String)
    (items : List Item) : List Item :=
  items.filter fun item =>
    sharesLexeme (a.lexemes text) ((analyzerOf item.id).lexemes item.node.text)

namespace Store

/-- The lexeme rows that match an item are those of the lexemes that it shares with the query. -/
theorem matching_ofItem (a : Analyzer) (text : String) (rows : List LexemeRow) (item : Item) :
    matching (a.queryTerms text) rows (DataRow.ofItem item) =
      rows.filter fun row => row.nodeId == item.id && (a.lexemes text).contains row.lexeme := by
  have hid : ∀ row : LexemeRow,
      ((DataRow.ofItem item).nodeId == .text row.nodeId) = (row.nodeId == item.id) := by
    intro row
    rw [Bool.eq_iff_iff, beq_iff_eq, beq_iff_eq]
    exact ⟨fun h => (Cell.text.inj h).symm, fun h => congrArg Cell.text h.symm⟩
  have hterm : ∀ x, (a.queryTerms text).contains x = (a.lexemes text).contains x := by
    intro x
    rw [Bool.eq_iff_iff, List.contains_iff_mem, List.contains_iff_mem, Analyzer.mem_queryTerms]
  simp only [matching, hid, hterm]

section Index

variable {a : Analyzer} {text : String} {analyzerOf : String → Analyzer} {items : List Item}
  {rows : List LexemeRow} (hindex : IsIndexOf analyzerOf items rows)
  (hdistinct : (items.map Item.id).Nodup)
include hindex hdistinct

/-- **The rank of an item** is a sum over the lexemes that it shares with the query. -/
theorem rank_matching {item : Item} (hitem : item ∈ items) :
    rank (matching (a.queryTerms text) rows (DataRow.ofItem item)) =
      lexicalRank (sharedIn rows (a.lexemes text) item.id)
        ((analyzerOf item.id).lexemes item.node.text) := by
  rw [matching_ofItem, rank, lexicalRank, sharedIn, List.map_map]
  congr 1
  apply List.map_congr_left
  intro row hrow
  simp only [List.mem_filter, Bool.and_eq_true, beq_iff_eq] at hrow
  obtain ⟨hmem, hid, -⟩ := hrow
  rw [Function.comp_apply, (hindex.count_eq hdistinct hitem hmem hid).2]
  rfl

/-- A row matches at all if its item shares a lexeme with the query. -/
theorem matching_isEmpty {item : Item} (hitem : item ∈ items) :
    (!(matching (a.queryTerms text) rows (DataRow.ofItem item)).isEmpty) =
      sharesLexeme (a.lexemes text) ((analyzerOf item.id).lexemes item.node.text) := by
  have hsame : (matching (a.queryTerms text) rows (DataRow.ofItem item)).isEmpty =
      (sharedIn rows (a.lexemes text) item.id).isEmpty := by
    rw [matching_ofItem, sharedIn, List.isEmpty_map]
  rw [hsame, Bool.eq_iff_iff, sharesLexeme_iff, Bool.not_eq_true',
    List.isEmpty_eq_false_iff_exists_mem]
  exact exists_congr fun x => hindex.mem_sharedIn hdistinct hitem _ x

/-- **Sparse hits on a stock** are the best of the items that share a lexeme with the query and are
admitted by the filters. -/
theorem sparseHits_of_index (limit : Nat) {filters : List Filter}
    (hfilters : Filter.Apply filters items) (hread : ∀ item ∈ items, item.node.WithinDepth)
    {rankOf : Item → Double} (hrank : ∀ item, rankOf item =
      lexicalRank (sharedIn rows (a.lexemes text) item.id)
        ((analyzerOf item.id).lexemes item.node.text)) :
    sparseHits (a.queryTerms text) limit filters rows (items.map DataRow.ofItem) =
      .ok ((bestOf (fun item => -(rankOf item).rank) limit
        ((indexedFor a analyzerOf text items).filter (Item.isAdmitted filters))).map fun item =>
          (item.node.reread, (rankOf item).toSingle)) := by
  by_cases hzero : limit = 0
  · simp [sparseHits, bestOf, hzero, pure, Except.pure]
  have hmem : ∀ item ∈ indexedFor a analyzerOf text items, item ∈ items := fun item hitem =>
    List.mem_of_mem_filter hitem
  have hcandidates : (items.map DataRow.ofItem).filter
        (fun row => !(matching (a.queryTerms text) rows row).isEmpty) =
      (indexedFor a analyzerOf text items).map DataRow.ofItem := by
    rw [List.filter_map]
    congr 1
    exact List.filter_congr fun item hitem => matching_isEmpty hindex hdistinct hitem
  have hscored := scoreRows_ofItem (hfilters.of_subset hmem)
    (fun row => .ok (rank (matching (a.queryTerms text) rows row)))
    fun item hitem => congrArg Except.ok ((rank_matching hindex hdistinct (hmem item hitem)).trans
      (hrank item).symm)
  simp only [sparseHits, hzero, if_false, hcandidates, hscored, bind, Except.bind]
  rw [take_mergeSort_ofItem (fun x y : Double => decide (y.rank ≤ x.rank))
    (fun item => -(rankOf item).rank) (fun x _ y _ => by simp) limit]
  refine toHits_ofItem ?_ fun _ _ => rfl
  intro item hitem
  exact hread item (hmem item (List.mem_of_mem_filter (mem_of_mem_bestOf hitem)))

end Index

/-- A text without lexemes finds nothing. -/
theorem sparseQuery_of_noLexeme {s : Store} {text : String}
    (h : s.params.analyzer.lexemes text = []) (limit : Nat) (filters : List Filter)
    (c : Connection) : s.sparseQuery text limit filters c = .ok {} := by
  simp [sparseQuery, Analyzer.isEmpty_queryTerms, h, pure, Except.pure]

/-- For a text with lexemes the keys and the size of the statement are checked, and then the tables
of the store are searched. -/
theorem sparseQuery_eq_of_lexeme {s : Store} {text : String}
    (h : s.params.analyzer.lexemes text ≠ []) (limit : Nat) (filters : List Filter)
    (c : Connection) : s.sparseQuery text limit filters c = (do
      Predicate.checkKeys filters
      let db ← c.database
      (StatementSize.sparse (s.params.analyzer.queryTerms text) filters).prepare
      let rows ← db.dataRows s.names.data
      let lexemes ← db.lexemeRows s.names.lexemes
      return .ofHits
        (← sparseHits (s.params.analyzer.queryTerms text) limit filters lexemes rows)) := by
  have hterms : (s.params.analyzer.queryTerms text).isEmpty = false := by
    rw [Analyzer.isEmpty_queryTerms, List.isEmpty_eq_false_iff]
    exact h
  simp only [sparseQuery, hterms]
  rfl

section Accepted

variable {s : Store} {text : String} (h : s.params.analyzer.lexemes text ≠ [])
  {filters : List Filter} (hkeys : Predicate.checkKeys filters = .ok ())
  (hsize : (StatementSize.sparse (s.params.analyzer.queryTerms text) filters).Accepted)
  {db : Database} {stored : List DataRow}
  (hdata : db.table? s.names.data = some (.data stored)) {rows : List LexemeRow}
  (hindex : db.table? s.names.lexemes = some (.lexemes rows))
include h hkeys hsize hdata hindex

/-- A text with lexemes that fit into a statement finds the hits in the tables of the store. -/
theorem sparseQuery_of_accepted (limit : Nat) :
    s.sparseQuery text limit filters (some db) =
      (sparseHits (s.params.analyzer.queryTerms text) limit filters rows stored).map
        QueryResult.ofHits := by
  rw [sparseQuery_eq_of_lexeme h]
  simp only [hkeys, Connection.database, StatementSize.prepare_of_accepted hsize,
    Database.dataRows_eq_ok hdata, Database.lexemeRows_eq_ok hindex, bind, Except.bind, pure,
    Except.pure]
  cases sparseHits (s.params.analyzer.queryTerms text) limit filters rows stored <;> rfl

/-- Where the search for hits succeeds, these are answered. -/
theorem sparseQuery_of_hits {limit : Nat} {hits : List Hit}
    (hhits : sparseHits (s.params.analyzer.queryTerms text) limit filters rows stored = .ok hits) :
    s.sparseQuery text limit filters (some db) = .ok (.ofHits hits) := by
  rw [sparseQuery_of_accepted h hkeys hsize hdata hindex, hhits]
  rfl

end Accepted

/-- **A text whose lexemes do not fit into a statement** with the filters is refused by the
database. -/
theorem sparseQuery_of_not_accepted {s : Store} {text : String}
    (h : s.params.analyzer.lexemes text ≠ []) {filters : List Filter}
    (hkeys : Predicate.checkKeys filters = .ok ())
    (hsize : ¬ (StatementSize.sparse (s.params.analyzer.queryTerms text) filters).Accepted)
    (limit : Nat) (db : Database) :
    s.sparseQuery text limit filters (some db) = .error .storage := by
  rw [sparseQuery_eq_of_lexeme h]
  simp only [hkeys, Connection.database, StatementSize.prepare_of_not_accepted hsize, bind,
    Except.bind]

/-- A query in sparse mode through a hybrid store. -/
theorem query_sparse {s : Store} (hhybrid : s.hybrid = true) {q : Query} (hmode : q.mode = .sparse)
    {text : String} (htext : q.text = some text) (c : Connection) :
    s.query q c = s.sparseQuery text q.effectiveSparseTopK q.filterList c := by
  simp [query, hmode, requireHybrid, hhybrid, Query.requireText, htext, bind, Except.bind]

end Store

/-- A sparse query for a text, without filters and with room for so many nodes. -/
structure Query.AsksFor (q : Query) (text : String) (room : Nat) : Prop where
  mode : q.mode = .sparse
  text : q.text = some text
  filters : q.filterList = []
  room : room ≤ q.effectiveSparseTopK

/-- A text with too many lexemes has some. -/
theorem Analyzer.lexemes_ne_nil_of_many {a : Analyzer} {text : String}
    (hmany : StatementSize.maxValues ≤ (a.queryTerms text).length) : a.lexemes text ≠ [] := by
  intro hnone
  rw [queryTerms, hnone] at hmany
  exact absurd hmany (by decide)

/-- A query for a text with too many distinct lexemes fails, whatever is stored. -/
theorem Query.AsksFor.eq_storage {s : Store} (hhybrid : s.hybrid = true) {q : Query} {text : String}
    {room : Nat} (hq : q.AsksFor text room)
    (hmany : StatementSize.maxValues ≤ (s.params.analyzer.queryTerms text).length) (db : Database) :
    s.query q (some db) = .error .storage := by
  have hlexemes : s.params.analyzer.lexemes text ≠ [] := Analyzer.lexemes_ne_nil_of_many hmany
  rw [Store.query_sparse hhybrid hq.mode hq.text, hq.filters]
  refine Store.sparseQuery_of_not_accepted hlexemes rfl ?_ _ db
  rw [StatementSize.accepted_sparse_nil_iff]
  exact Nat.not_lt.mpr hmany

/-- **Without filters and with room for all of them** a sparse query for a text with few enough
lexemes answers with the items of which the index holds a lexeme of the text. -/
theorem query_of_covers {names : TableNames} {s : Store} (hnamed : s.names = names)
    (hhybrid : s.hybrid = true) {db : Database} {items : List Item}
    (hstocked : Stocked names db items) (hread : ∀ item ∈ items, item.node.WithinDepth)
    {rows : List LexemeRow} (hindex : db.table? names.lexemes = some (.lexemes rows))
    {analyzerOf : String → Analyzer} (hcovers : Covers analyzerOf items rows) {q : Query}
    {text : String} (hq : q.AsksFor text items.length)
    (hfew : (s.params.analyzer.queryTerms text).length < StatementSize.maxValues) :
    ∃ result, s.query q (some db) = .ok result ∧
      result.nodes.Perm ((indexedFor s.params.analyzer analyzerOf text items).map fun item =>
        item.node.reread) := by
  subst hnamed
  rw [Store.query_sparse hhybrid hq.mode hq.text, hq.filters]
  by_cases hlexemes : s.params.analyzer.lexemes text = []
  · refine ⟨{}, Store.sparseQuery_of_noLexeme hlexemes _ _ _, ?_⟩
    simp [indexedFor, sharesLexeme, hlexemes]
  · obtain ⟨rankOf, hrank⟩ : ∃ rankOf : Item → Double, ∀ item, rankOf item =
      lexicalRank (sharedIn rows (s.params.analyzer.lexemes text) item.id)
        ((analyzerOf item.id).lexemes item.node.text) := ⟨_, fun _ => rfl⟩
    have hhits := Store.sparseHits_of_index (hcovers.isIndexOf hstocked.distinct) hstocked.distinct
      q.effectiveSparseTopK (Filter.apply_nil items) hread hrank
    refine ⟨_, Store.sparseQuery_of_hits hlexemes rfl
      (StatementSize.accepted_sparse_nil_iff.mpr hfew) hstocked.data hindex hhits, ?_⟩
    have hall : (indexedFor s.params.analyzer analyzerOf text items).filter (Item.isAdmitted []) =
        indexedFor s.params.analyzer analyzerOf text items :=
      List.filter_eq_self.mpr fun _ _ => rfl
    have hroom : (indexedFor s.params.analyzer analyzerOf text items).length ≤
        q.effectiveSparseTopK := (List.length_filter_le _ _).trans hq.room
    rw [hall]
    simpa [QueryResult.ofHits, Function.comp_def] using
      (bestOf_perm _ hroom).map fun item => item.node.reread

/-! ## The best by rank -/

/-- **What a sparse query answers.**  A store whose index is in step with its data finds nothing for
a text without lexemes.  For any other text, if its lexemes and the filters fit into a statement, it
finds the best of the items that share a lexeme with it and are admitted by the filters: each once,
by descending rank, equal ranks in the order of the rows.  The rank counts every shared lexeme once,
and comes back as the similarity.  If they do not fit, the query fails. -/
theorem sparse_query_best {s : Store} (hhybrid : s.hybrid = true) {db : Database}
    {items : List Item} (hdata : db.table? s.names.data = some (.data (items.map DataRow.ofItem)))
    (hdistinct : (items.map Item.id).Nodup) {rows : List LexemeRow}
    (hindex : db.table? s.names.lexemes = some (.lexemes rows))
    (hstep : IsIndexOf (fun _ => s.params.analyzer) items rows)
    (hread : ∀ item ∈ items, item.node.WithinDepth) {q : Query} (hmode : q.mode = .sparse)
    {text : String} (htext : q.text = some text) :
    (s.params.analyzer.lexemes text = [] → s.query q (some db) = .ok {}) ∧
      (s.params.analyzer.lexemes text ≠ [] → Filter.Apply q.filterList items →
        (StatementSize.sparse (s.params.analyzer.queryTerms text) q.filterList).Accepted →
        ∃ (shared : Item → List String) (rankOf : Item → Double) (result : QueryResult)
            (found : List Item),
          (∀ item ∈ items, (shared item).Nodup ∧ ∀ x, x ∈ shared item ↔
            x ∈ s.params.analyzer.lexemes text ∧ x ∈ s.params.analyzer.lexemes item.node.text) ∧
          (∀ item, rankOf item =
            lexicalRank (shared item) (s.params.analyzer.lexemes item.node.text)) ∧
          s.query q (some db) = .ok result ∧
          result.IsTop (fun item => -(rankOf item).rank) (fun item => (rankOf item).toSingle)
            q.effectiveSparseTopK
            (items.filter fun item => item.isAdmitted q.filterList &&
              sharesLexeme (s.params.analyzer.lexemes text)
                (s.params.analyzer.lexemes item.node.text)) found) ∧
      (s.params.analyzer.lexemes text ≠ [] → Filter.Apply q.filterList items →
        ¬ (StatementSize.sparse (s.params.analyzer.queryTerms text) q.filterList).Accepted →
        s.query q (some db) = .error .storage) := by
  rw [Store.query_sparse hhybrid hmode htext]
  refine ⟨fun hnone => Store.sparseQuery_of_noLexeme hnone _ _ _, ?_, fun hlexemes hfilters hsize =>
    Store.sparseQuery_of_not_accepted hlexemes hfilters.checkKeys hsize _ db⟩
  intro hlexemes hfilters hsize
  obtain ⟨rankOf, hrank⟩ : ∃ rankOf : Item → Double, ∀ item, rankOf item =
    lexicalRank (sharedIn rows (s.params.analyzer.lexemes text) item.id)
      (s.params.analyzer.lexemes item.node.text) := ⟨_, fun _ => rfl⟩
  have hhits := Store.sparseHits_of_index hstep hdistinct q.effectiveSparseTopK hfilters hread hrank
  have hanswer := Store.sparseQuery_of_hits hlexemes hfilters.checkKeys hsize hdata hindex hhits
  rw [indexedFor, List.filter_filter] at hanswer
  refine ⟨fun item => sharedIn rows (s.params.analyzer.lexemes text) item.id, rankOf, _, _, ?_,
    hrank, hanswer, QueryResult.isTop_bestOf hdistinct _ _ _ _⟩
  intro item hitem
  exact ⟨hstep.nodup_sharedIn _ _, hstep.mem_sharedIn hdistinct hitem _⟩

/-- An item with a text and a tag. -/
def Item.ofTag (id text tag : String) : Item :=
  ⟨{ id := id, text := text, metadata := Metadata.empty.insert "tag" (.string tag) }, []⟩

/-- A sparse query for a text. -/
def Query.sparse (text : String) (topK : Nat) (filters : List Filter) : Query :=
  { text := some text, topK := topK, filters := some filters, mode := .sparse }

/-- Of two texts with the lexeme of the query the filter admits one. -/
theorem sparse_query_best_ofTags :
    ∃ result, (Store.ofAnalyzer .english).query
        (.sparse "a fox" 5 [⟨"tag", .text "red"⟩])
        (some ⟨[("data_t", .data ([.ofTag "a" "fox" "grey", .ofTag "b" "red foxes" "red",
            .ofTag "c" "hen" "red"].map DataRow.ofItem)),
          ("data_t_lexemes", .lexemes (stockRows (fun _ => .english) [.ofTag "a" "fox" "grey",
            .ofTag "b" "red foxes" "red", .ofTag "c" "hen" "red"]))], []⟩) = .ok result ∧
      result.ids = ["b"] := by
  obtain ⟨items, hitems⟩ : ∃ items : List Item, items = [.ofTag "a" "fox" "grey",
    .ofTag "b" "red foxes" "red", .ofTag "c" "hen" "red"] := ⟨_, rfl⟩
  rw [← hitems]
  have hcases : ∀ item ∈ items, item = .ofTag "a" "fox" "grey" ∨
      item = .ofTag "b" "red foxes" "red" ∨ item = .ofTag "c" "hen" "red" := by
    simp [hitems]
  have hdistinct : (items.map Item.id).Nodup := by
    rw [hitems]
    decide
  have hread : ∀ item ∈ items, item.node.WithinDepth := by
    intro item hitem
    rcases hcases item hitem with rfl | rfl | rfl <;> exact ⟨by decide +kernel, by decide +kernel⟩
  have hfilters : Filter.Apply [⟨"tag", .text "red"⟩] items := by
    refine ⟨⟨_, rfl⟩, ?_⟩
    intro item hitem
    rcases hcases item hitem with rfl | rfl | rfl
    · exact ⟨false, by decide +kernel⟩
    · exact ⟨true, by decide +kernel⟩
    · exact ⟨true, by decide +kernel⟩
  have hstep := (covers_stockRows (fun _ => .english) hdistinct).isIndexOf hdistinct
  have hdata : Database.table? ⟨[("data_t", .data (items.map DataRow.ofItem)),
      ("data_t_lexemes", .lexemes (stockRows (fun _ => .english) items))], []⟩ "data_t" =
    some (.data (items.map DataRow.ofItem)) := rfl
  obtain ⟨-, hsome, -⟩ := sparse_query_best (s := .ofAnalyzer .english) rfl hdata hdistinct rfl
    hstep hread (q := .sparse "a fox" 5 [⟨"tag", .text "red"⟩]) rfl rfl
  obtain ⟨_, rankOf, result, found, -, -, hanswer, htop⟩ := hsome (by decide +kernel) hfilters
    (by decide +kernel)
  have hcandidates : (items.filter fun item => item.isAdmitted [⟨"tag", .text "red"⟩] &&
      sharesLexeme (Analyzer.english.lexemes "a fox") (Analyzer.english.lexemes item.node.text)) =
        [.ofTag "b" "red foxes" "red"] := by
    have hgrey : (Item.ofTag "a" "fox" "grey").isAdmitted [⟨"tag", .text "red"⟩] = false := by
      decide +kernel
    have hred : (Item.ofTag "b" "red foxes" "red").isAdmitted [⟨"tag", .text "red"⟩] = true := by
      decide +kernel
    have hfox : sharesLexeme (Analyzer.english.lexemes "a fox")
        (Analyzer.english.lexemes (Item.ofTag "b" "red foxes" "red").node.text) = true := by
      decide +kernel
    have hhen : sharesLexeme (Analyzer.english.lexemes "a fox")
        (Analyzer.english.lexemes (Item.ofTag "c" "hen" "red").node.text) = false := by
      decide +kernel
    simp only [hitems, List.filter_cons, hgrey, hred, hfox, hhen, List.filter_nil, Bool.and_false,
      Bool.false_and, Bool.and_self, if_true, if_false, Bool.false_eq_true]
  have hbest : IsBest (fun item => -(rankOf item).rank) 5 [.ofTag "b" "red foxes" "red"] found := by
    rw [← hcandidates]
    exact htop.best
  refine ⟨result, hanswer, ?_⟩
  rw [htop.ids, htop.nodes, List.perm_singleton.mp (hbest.perm (by decide))]
  rfl

/-! ## Queries that do not fit -/

/-- An index in step with the item, which can be read back, shares a lexeme with the text and is
admitted by the filters, but the query fails. -/
structure Item.IsRefused (item : Item) (text : String) (filters : List Filter) : Prop where
  step : IsIndexOf (fun _ => .simple) [item] (stockRows (fun _ => .simple) [item])
  within : item.node.WithinDepth
  applies : Filter.Apply filters [item]
  admitted : item.isAdmitted filters = true
  shares : sharesLexeme (Analyzer.simple.lexemes text) (Analyzer.simple.lexemes item.node.text)
  fails : (Store.ofAnalyzer .simple).query (.sparse text 1 filters)
    (some ⟨[("data_t", .data [.ofItem item]),
      ("data_t_lexemes", .lexemes (stockRows (fun _ => .simple) [item]))], []⟩) = .error .storage

/-- Every query that does not fit into a statement is refused. -/
theorem Item.isRefused_of_not_accepted {item : Item} {text : String} {filters : List Filter}
    (hread : item.node.WithinDepth) (hfilters : Filter.Apply filters [item])
    (hadmitted : item.isAdmitted filters = true)
    (hshares : sharesLexeme (Analyzer.simple.lexemes text)
      (Analyzer.simple.lexemes item.node.text))
    (hsize : ¬ (StatementSize.sparse (Analyzer.simple.queryTerms text) filters).Accepted) :
    item.IsRefused text filters := by
  have hdistinct : ([item].map Item.id).Nodup := List.nodup_singleton _
  have hlexemes : Analyzer.simple.lexemes text ≠ [] := by
    obtain ⟨x, hx, -⟩ := sharesLexeme_iff.mp hshares
    exact List.ne_nil_of_mem hx
  refine ⟨(covers_stockRows _ hdistinct).isIndexOf hdistinct, hread, hfilters, hadmitted, hshares,
    ?_⟩
  rw [Store.query_sparse rfl rfl rfl]
  exact Store.sparseQuery_of_not_accepted (s := .ofAnalyzer .simple) hlexemes hfilters.checkKeys
    hsize _ _

/-- **Two queries that are refused**, although an item matches them: for the numerals below 32766,
and with one filter given 996 times. -/
theorem matching_queries_refused :
    (Item.ofText "a" "0").IsRefused (numerals 32766) [] ∧
      (Item.ofTag "a" "fox" "red").IsRefused "fox"
        (List.replicate 996 ⟨"tag", .text "red"⟩) := by
  constructor
  · have hzero : Analyzer.simple.lexemes (Item.ofText "a" "0").node.text = ["0"] := by
      decide +kernel
    refine Item.isRefused_of_not_accepted ⟨by decide, by decide⟩ (Filter.apply_nil _) rfl ?_ ?_
    · rw [sharesLexeme_iff, hzero, Analyzer.lexemes_numerals]
      refine ⟨"0", List.mem_map.mpr ⟨0, List.mem_range.mpr (by decide), ?_⟩,
        List.mem_singleton_self _⟩
      decide +kernel
    · rw [StatementSize.accepted_sparse_nil_iff, Analyzer.length_queryTerms_numerals,
        StatementSize.maxValues]
      exact Nat.lt_irrefl _
  · have hholds : Filter.allHold (List.replicate 996 ⟨"tag", .text "red"⟩)
        (.text (Item.ofTag "a" "fox" "red").node.metadata.text) = .ok true := by
      refine Filter.allHold_of_forall fun f hf => ?_
      rw [List.eq_of_mem_replicate hf]
      decide +kernel
    have hkeys : Predicate.checkKeys (List.replicate 996 ⟨"tag", .text "red"⟩) = .ok () := by
      refine Predicate.checkKeys_eq_ok_iff.mpr fun f hf => ?_
      rw [List.eq_of_mem_replicate hf]
      decide
    refine Item.isRefused_of_not_accepted ⟨by decide +kernel, by decide +kernel⟩
      ⟨⟨_, Predicate.render_eq_ok_iff.mpr ⟨hkeys, rfl⟩⟩, ?_⟩ ?_ (by decide +kernel) ?_
    · intro item hitem
      rw [List.mem_singleton.mp hitem]
      exact ⟨true, hholds⟩
    · exact Except.ok.inj ((Filter.allHold_eq_admits hholds).symm.trans hholds)
    · rw [StatementSize.accepted_sparse_iff, List.length_replicate]
      omega

end HybridRetrieval
