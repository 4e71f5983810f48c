import HybridRetrieval.Proofs.Store.Served
import HybridRetrieval.Proofs.Store.SparseQuery
/-!
# Analyzers over time

The index does not say which analyzer its rows were made by.  `History` keeps account of it: one
store at a time opens the database, writes to it and closes it, and for each node the history knows
the analyzer that was in force when the text of the node was last indexed.  The index holds exactly
what the history says (`History.sound`).

A query goes through the analyzer of the store that is open.  Whether it finds the nodes that share
a lexeme with it, if it fits into a statement, is decided node by node by comparing the two
analyzers (`sparse_query_exact_iff`).
-/

namespace HybridRetrieval

/-- What one store at a time makes of a database: the store that is open, the database, and for each
node the analyzer by which it was last indexed.  A new index is made by the analyzer of the opening
that creates it; a write by a hybrid store is indexed by the analyzer of that store. -/
inductive History (names : TableNames) :
    Option Store → Database → (String → Analyzer) → Prop where
  | start {db : Database} {analyzerOf : String → Analyzer} (vacant : Vacant names db) :
      History names none db analyzerOf
  | opening {db made : Database} {analyzerOf : String → Analyzer} {p : StoreParams} {store : Store}
      (before : History names none db analyzerOf) (isFor : p.IsFor names)
      (opens : Store.openOn p db = (.ok store, made)) :
      History names (some store) made
        (if Store.isIndexed names db then analyzerOf else fun _ => p.analyzer)
  | refusal {db made : Database} {analyzerOf : String → Analyzer} {p : StoreParams} {e : Error}
      (before : History names none db analyzerOf) (isFor : p.IsFor names)
      (fails : Store.openOn p db = (.error e, made)) : History names none made analyzerOf
  | writing {store : Store} {db made : Database} {analyzerOf : String → Analyzer} {w : Write}
      (before : History names (some store) db analyzerOf)
      (writes : store.write w (some db) = .ok (some made)) :
      History names (some store) made
        (if store.hybrid then w.analyzersAfter store.params.analyzer analyzerOf else analyzerOf)
  | closing {store : Store} {db : Database} {analyzerOf : String → Analyzer}
      (before : History names (some store) db analyzerOf) : History names none db analyzerOf

/-- The database holds a stock, its index is what the history says, and the open store has what it
needs and is hybrid exactly if there is an index. -/
structure Accounted (names : TableNames) (open? : Option Store) (db : Database)
    (analyzerOf : String → Analyzer) (items : List Item) : Prop where
  holds : Holds names db items
  covers : ∀ rows, db.table? names.lexemes = some (.lexemes rows) → Covers analyzerOf items rows
  serves : ∀ store, open? = some store →
    Serves names store db ∧ store.hybrid = Store.isIndexed names db

/-- Items with distinct identifiers are told apart by them. -/
theorem id_mem_iff {items found : List Item} (hdistinct : (items.map Item.id).Nodup)
    (hfound : found ⊆ items) {item : Item} (hitem : item ∈ items) :
    item.id ∈ found.map Item.id ↔ item ∈ found := by
  constructor
  · intro hmem
    obtain ⟨other, hother, hid⟩ := List.mem_map.mp hmem
    rwa [← List.inj_on_of_nodup_map hdistinct (hfound hother) hitem hid]
  · intro hmem
    exact List.mem_map.mpr ⟨item, hmem, rfl⟩

/-- Closing keeps the account. -/
theorem Accounted.closing {names : TableNames} {open? : Option Store} {db : Database}
    {analyzerOf : String → Analyzer} {items : List Item}
    (h : Accounted names open? db analyzerOf items) : Accounted names none db analyzerOf items :=
  ⟨h.holds, h.covers, by simp⟩

section History

variable {names : TableNames} (hnames : names.Accepted) {db made : Database}
  {analyzerOf : String → Analyzer} {items : List Item}
include hnames

/-- An opening keeps the account. -/
theorem Accounted.opening (h : Accounted names none db analyzerOf items) {p : StoreParams}
    (hp : p.IsFor names) {store : Store} (hopen : Store.openOn p db = (.ok store, made)) :
    Accounted names (some store) made
      (if Store.isIndexed names db then analyzerOf else fun _ => p.analyzer) items := by
  cases hname : TableNames.ofName p.tableName with
  | error e =>
      rw [openOn_of_refused hname] at hopen
      cases (Prod.mk.inj hopen).1
  | ok others =>
      obtain rfl := hp others hname
      obtain ⟨made', hopen', hstocked, hindex⟩ := openOn_of_holds hnames h.holds hname
      have hserves := (Serves.opened hnames h.holds hp (congrArg Prod.fst hopen)).1
      rw [hopen] at hopen' hserves
      obtain ⟨hstore, rfl⟩ := Prod.mk.inj hopen'
      obtain rfl := Except.ok.inj hstore
      refine ⟨Or.inl hstocked, ?_, ?_⟩
      · intro rows hrows
        rw [hindex] at hrows
        split at hrows
        · rename_i hindexed
          rw [if_pos hindexed]
          exact h.covers rows hrows
        · rename_i hindexed
          rw [if_neg hindexed]
          split at hrows
          · obtain rfl := Table.lexemes.inj (Option.some.inj hrows)
            exact covers_stockRows _ h.holds.nodup
          · cases hrows
      · intro store hstore
        obtain rfl := Option.some.inj hstore
        exact ⟨hserves, (isIndexed_of_openOn hindex).symm⟩

/-- A write keeps the account. -/
theorem Accounted.writing {store : Store} (h : Accounted names (some store) db analyzerOf items)
    {w : Write} (hwrite : store.write w (some db) = .ok (some made)) :
    Accounted names (some store) made
      (if store.hybrid then w.analyzersAfter store.params.analyzer analyzerOf else analyzerOf)
      (w.applyTo items) := by
  obtain ⟨hserves, hhybrid⟩ := h.serves store rfl
  have hstill := hserves.write hnames hserves h.holds hwrite
  obtain ⟨next, heq, -, hstocked, hkept, hsame⟩ := write_ok_cases hnames hserves h.holds hwrite
  obtain rfl := Option.some.inj heq
  cases hflag : store.hybrid with
  | false =>
      rw [hflag] at hhybrid
      refine ⟨Or.inl hstocked, ?_, ?_⟩
      · intro rows hrows
        rw [Store.isIndexed, ← hsame hflag, hrows] at hhybrid
        cases hhybrid
      · intro other hother
        obtain rfl := Option.some.inj hother
        refine ⟨hstill, ?_⟩
        rw [hflag, Store.isIndexed, hsame hflag]
        exact hhybrid
  | true =>
      obtain ⟨old, hold, hnew⟩ := hkept hflag
      refine ⟨Or.inl hstocked, ?_, ?_⟩
      · intro rows hrows
        rw [hnew] at hrows
        obtain rfl := Table.lexemes.inj (Option.some.inj hrows)
        exact (h.covers old hold).write h.holds.nodup _ w
      · intro other hother
        obtain rfl := Option.some.inj hother
        refine ⟨hstill, ?_⟩
        rw [hflag, Store.isIndexed, hnew]
        rfl

/-- **The index is what the history says.** -/
theorem History.sound {open? : Option Store} (h : History names open? db analyzerOf) :
    ∃ items, Accounted names open? db analyzerOf items := by
  induction h with
  | start vacant =>
      refine ⟨[], Or.inr ⟨vacant, rfl⟩, ?_, by simp⟩
      intro rows hrows
      rw [vacant.lexemes] at hrows
      cases hrows
  | opening before isFor opens ih =>
      obtain ⟨items, haccounted⟩ := ih
      exact ⟨items, haccounted.opening hnames isFor opens⟩
  | @refusal db made analyzerOf p e before isFor fails ih =>
      obtain ⟨items, haccounted⟩ := ih
      cases hname : TableNames.ofName p.tableName with
      | error e' =>
          rw [openOn_of_refused hname] at fails
          obtain ⟨-, rfl⟩ := Prod.mk.inj fails
          exact ⟨items, haccounted⟩
      | ok others =>
          obtain rfl := isFor others hname
          obtain ⟨made', hopen, -⟩ := openOn_of_holds hnames haccounted.holds hname
          rw [fails] at hopen
          cases (Prod.mk.inj hopen).1
  | writing before writes ih =>
      obtain ⟨items, haccounted⟩ := ih
      exact ⟨_, haccounted.writing hnames writes⟩
  | closing before ih =>
      obtain ⟨items, haccounted⟩ := ih
      exact ⟨items, haccounted.closing⟩

/-- **When sparse queries are exact.**  For a hybrid store that is open after any history, over
nodes that are nested no deeper than the reader enters: every sparse query that is not too large for
a statement, without filters and with room for all nodes, lists exactly the nodes that share a
lexeme with it under the store's analyzer, if and only if on the lexemes that this analyzer can
produce every node was indexed as the analyzer would have it.  A query with too many distinct
lexemes fails. -/
theorem sparse_query_exact_iff {store : Store} (h : History names (some store) db analyzerOf)
    (hhybrid : store.hybrid = true) :
    ∃ items, db.table? names.data = some (.data (items.map DataRow.ofItem)) ∧
      ((∀ item ∈ items, item.node.WithinDepth) →
        ((∀ q text, Query.AsksFor q text items.length →
            (store.params.analyzer.queryTerms text).length < StatementSize.maxValues →
            ∃ result, store.query q (some db) = .ok result ∧
              result.nodes.Perm ((indexedFor store.params.analyzer
                (fun _ => store.params.analyzer) text items).map fun item => item.node.reread)) ↔
          ∀ item ∈ items, ∀ x, store.params.analyzer.Produces x →
            (x ∈ (analyzerOf item.id).lexemes item.node.text ↔
              x ∈ store.params.analyzer.lexemes item.node.text))) ∧
      ∀ q text, Query.AsksFor q text items.length →
        StatementSize.maxValues ≤ (store.params.analyzer.queryTerms text).length →
        store.query q (some db) = .error .storage := by
  obtain ⟨items, haccounted⟩ := h.sound hnames
  obtain ⟨hserves, hindexed⟩ := haccounted.serves store rfl
  have hstocked := haccounted.holds.stocked hserves.data
  rw [hhybrid] at hindexed
  obtain ⟨table, htable⟩ := Option.isSome_iff_exists.mp hindexed.symm
  obtain ⟨rows, rfl⟩ := hstocked.index table htable
  refine ⟨items, hstocked.data, fun hread => ?_, fun q text hq hmany =>
    hq.eq_storage hhybrid hmany db⟩
  have hquery : ∀ q text, Query.AsksFor q text items.length →
      (store.params.analyzer.queryTerms text).length < StatementSize.maxValues → _ :=
    fun q text hq hfew => query_of_covers hserves.named hhybrid hstocked hread htable
      (haccounted.covers rows htable) hq hfew
  constructor
  · intro hlaw item hitem x hx
    -- ask for the lexeme by itself
    obtain ⟨text, hsingle⟩ := Analyzer.exists_single_lexeme hx
    have hq : Query.AsksFor { text := some text, topK := items.length, mode := .sparse } text
        items.length := ⟨rfl, rfl, rfl, Nat.le_refl _⟩
    have hfew : (store.params.analyzer.queryTerms text).length < StatementSize.maxValues := by
      simp [Analyzer.queryTerms, hsingle, List.eraseDups_cons, StatementSize.maxValues]
    obtain ⟨result, hresult, hexpected⟩ := hlaw _ text hq hfew
    obtain ⟨found, hfound, hlisted⟩ := hquery _ text hq hfew
    obtain rfl : found = result := Except.ok.inj (hfound.symm.trans hresult)
    have hids := (hlisted.symm.trans hexpected).map Node.id
    rw [List.map_map, List.map_map] at hids
    have hmem : ∀ a' : String → Analyzer,
        item.id ∈ (indexedFor store.params.analyzer a' text items).map Item.id ↔
          x ∈ (a' item.id).lexemes item.node.text := by
      intro a'
      rw [indexedFor, id_mem_iff hstocked.distinct List.filter_sublist.subset hitem,
        List.mem_filter, sharesLexeme_iff, hsingle]
      simp [hitem]
    rw [← hmem analyzerOf, ← hmem fun _ => store.params.analyzer]
    exact hids.mem_iff
  · intro hagree q text hq hfew
    obtain ⟨result, hresult, hlisted⟩ := hquery q text hq hfew
    have hsame : indexedFor store.params.analyzer analyzerOf text items =
        indexedFor store.params.analyzer (fun _ => store.params.analyzer) text items := by
      apply List.filter_congr
      intro item hitem
      rw [Bool.eq_iff_iff, sharesLexeme_iff, sharesLexeme_iff]
      exact exists_congr fun x => and_congr_right fun hx => hagree item hitem x ⟨text, hx⟩
    exact ⟨result, hresult, hsame ▸ hlisted⟩

end History

/-! ## Two histories -/

/-- The database after the English store has added a node. -/
def Database.ofFoxes : Database :=
  ⟨[("data_t", .data [.ofItem (.ofText "a" "foxes")]),
      ("data_t_lexemes", .lexemes (Store.lexemeRowsOf .english "a" "foxes"))],
    ["idx_data_t_ref_doc", "idx_data_t_lexemes_lexeme"]⟩

/-- How that database comes about. -/
theorem History.ofFoxes : History ⟨"data_t", "data_t_lexemes"⟩ (some (.ofAnalyzer .english))
    .ofFoxes (fun _ => .english) := by
  have hname : TableNames.ofName "t" = .ok ⟨"data_t", "data_t_lexemes"⟩ := by rfl
  have hopen : Store.openOn (Store.ofAnalyzer .english).params .empty =
      (.ok (.ofAnalyzer .english), ⟨[("data_t", .data []), ("data_t_lexemes", .lexemes [])],
        ["idx_data_t_ref_doc", "idx_data_t_lexemes_lexeme"]⟩) := by rfl
  have hadd : (Store.ofAnalyzer .english).write (.add [.ofText "a" "foxes"])
      (some ⟨[("data_t", .data []), ("data_t_lexemes", .lexemes [])],
        ["idx_data_t_ref_doc", "idx_data_t_lexemes_lexeme"]⟩) = .ok (some .ofFoxes) := by rfl
  have hstart : History ⟨"data_t", "data_t_lexemes"⟩ none .empty fun _ => .english :=
    .start (vacant_empty _)
  have hfor : (Store.ofAnalyzer .english).params.IsFor ⟨"data_t", "data_t_lexemes"⟩ :=
    fun others h => Except.ok.inj (h.symm.trans hname)
  have hwritten := (hstart.opening hfor hopen).writing hadd
  have hsame : (if (Store.ofAnalyzer .english).hybrid then
      Write.analyzersAfter .english (fun _ => .english) (.add [.ofText "a" "foxes"])
      else fun _ => .english) = fun _ => .english := by
    rw [Write.analyzersAfter_const, ite_self]
  rwa [show Store.isIndexed ⟨"data_t", "data_t_lexemes"⟩ .empty = false by rfl,
    if_neg Bool.false_ne_true, show (Store.ofAnalyzer .english).params.analyzer = .english by rfl,
    hsame] at hwritten

/-- A node without metadata and relationships is nested no deeper than the reader enters. -/
theorem withinDepth_ofText (id text : String) : (Item.ofText id text).node.WithinDepth :=
  ⟨(by decide : Metadata.empty.toDocument.nesting ≤ Json.maxDepth),
    (by decide : (Relationships.toDocument {}).nesting ≤ Json.maxDepth)⟩

/-- As long as the analyzer stays the same, every sparse query is exact: here one for the stem of
the stored text finds the node. -/
theorem sparse_query_exact_ofFoxes :
    ∃ result, (Store.ofAnalyzer .english).query
        { text := some "fox", topK := 1, mode := .sparse } (some .ofFoxes) = .ok result ∧
      result.nodes.map Node.id = ["a"] := by
  obtain ⟨items, hdata, hiff, -⟩ := sparse_query_exact_iff ⟨"t", by rfl⟩ History.ofFoxes (by rfl)
  have hitems : [DataRow.ofItem (.ofText "a" "foxes")] = items.map DataRow.ofItem :=
    Table.data.inj (Option.some.inj hdata)
  obtain ⟨item, rfl, hrow⟩ := List.map_eq_singleton_iff.mp hitems.symm
  have hid : item.node.id = "a" := Cell.text.inj (congrArg DataRow.nodeId hrow)
  have htext : item.node.text = "foxes" := Cell.text.inj (congrArg DataRow.text hrow)
  have hread : ∀ other ∈ [item], other.node.WithinDepth := by
    intro other hother
    rw [List.mem_singleton.mp hother]
    exact (withinDepth_ofText "a" "foxes").of_row hrow
  obtain ⟨result, hresult, hperm⟩ := (hiff hread).mpr (fun _ _ _ _ => Iff.rfl)
    { text := some "fox", topK := 1, mode := .sparse } "fox" ⟨rfl, rfl, rfl, Nat.le_refl 1⟩
    (by decide +kernel)
  refine ⟨result, hresult, ?_⟩
  have hshares : sharesLexeme (Analyzer.english.lexemes "fox")
      (Analyzer.english.lexemes "foxes") = true := by rfl
  have hfound : (indexedFor (Store.ofAnalyzer .english).params.analyzer
      (fun _ => (Store.ofAnalyzer .english).params.analyzer) "fox" [item]).map
        (fun item => item.node.reread) = [item.node.reread] := by
    simp [indexedFor, Store.ofAnalyzer, htext, hshares]
  rw [hfound] at hperm
  rw [List.perm_singleton.mp hperm, ← hid]
  rfl

/-- **Two analyzers.**  A store that reopens the database with another analyzer asks for the word as
it stands in the stored text, and does not find the node. -/
theorem sparse_query_misses_ofFoxes :
    History ⟨"data_t", "data_t_lexemes"⟩ (some (.ofAnalyzer .simple)) .ofFoxes
        (fun _ => .english) ∧
      (Item.ofText "a" "foxes").node.WithinDepth ∧
      indexedFor .simple (fun _ => .simple) "foxes" [.ofText "a" "foxes"] =
        [.ofText "a" "foxes"] ∧
      ∃ result, (Store.ofAnalyzer .simple).query
          { text := some "foxes", topK := 1, mode := .sparse } (some .ofFoxes) = .ok result ∧
        result.nodes = [] := by
  have hname : TableNames.ofName "t" = .ok ⟨"data_t", "data_t_lexemes"⟩ := by rfl
  have hopen : Store.openOn (Store.ofAnalyzer .simple).params .ofFoxes =
      (.ok (.ofAnalyzer .simple), .ofFoxes) := by rfl
  have hhistory := History.ofFoxes.closing.opening
    (fun others h => Except.ok.inj (h.symm.trans hname)) hopen
  rw [show Store.isIndexed ⟨"data_t", "data_t_lexemes"⟩ .ofFoxes = true by rfl, if_pos rfl]
    at hhistory
  have hstocked : Stocked ⟨"data_t", "data_t_lexemes"⟩ .ofFoxes [.ofText "a" "foxes"] :=
    ⟨⟨by decide, by decide, by rfl, by rfl⟩, by rfl, by simp, fun table h =>
      ⟨_, (Option.some.inj h).symm⟩⟩
  have hcovers := covers_stockRows (fun _ => .english) hstocked.distinct
  have hrows : stockRows (fun _ => .english) [.ofText "a" "foxes"] =
      Store.lexemeRowsOf .english "a" "foxes" := by
    simp [stockRows, Item.ofText, Item.id]
  rw [hrows] at hcovers
  have hread : ∀ item ∈ [Item.ofText "a" "foxes"], item.node.WithinDepth := by
    intro item hitem
    rw [List.mem_singleton.mp hitem]
    exact withinDepth_ofText "a" "foxes"
  obtain ⟨result, hresult, hlisted⟩ := query_of_covers (s := Store.ofAnalyzer .simple) rfl (by rfl)
    hstocked hread (by rfl) hcovers
    (q := { text := some "foxes", topK := 1, mode := .sparse }) ⟨rfl, rfl, rfl, Nat.le_refl 1⟩
    (by decide +kernel)
  have hnone : indexedFor (Store.ofAnalyzer .simple).params.analyzer (fun _ => .english) "foxes"
      [.ofText "a" "foxes"] = [] := by rfl
  rw [hnone] at hlisted
  exact ⟨hhistory, withinDepth_ofText "a" "foxes", by rfl, result, hresult,
    List.perm_nil.mp hlisted⟩

end HybridRetrieval
