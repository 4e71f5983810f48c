import HybridRetrieval.Proofs.Session.Run
import HybridRetrieval.Proofs.Store.Served
import HybridRetrieval.Store.Read
/-!
# The index is in step with the data

One table of one or many databases is opened, written to, asked and closed through any number of
handles.  All openings name the same analyzer, and no handle that is not hybrid writes once the
index exists (`KeepsUp`).  Then every index in every state holds one row for each term of each
stored text and nothing else (`index_in_step`).

The invariant is that each database holds a stock (`Holds`) whose index, if there is one, covers it
(`InStep`).
-/

namespace HybridRetrieval

/-- The database holds a stock that its index, if there is one, covers. -/
def InStep (names : TableNames) (a : Analyzer) (db : Database) : Prop :=
  ∃ items, Holds names db items ∧
    ∀ rows, db.table? names.lexemes = some (.lexemes rows) → Covers (fun _ => a) items rows

/-- A store that is not hybrid writes only while there is no index. -/
def KeepsUp (names : TableNames) (store : Store) (db : Database) (_ : Write) : Prop :=
  store.hybrid = false → Store.isIndexed names db = false

section Maintained

variable {names : TableNames} (hnames : names.Accepted) {a : Analyzer} {db : Database}

/-- A database without tables is in step. -/
theorem inStep_of_vacant (h : Vacant names db) : InStep names a db := by
  refine ⟨[], Or.inr ⟨h, rfl⟩, ?_⟩
  intro rows hrows
  rw [h.lexemes] at hrows
  cases hrows

include hnames

/-- Opening keeps a database in step: an old index is not touched, a new one is complete. -/
theorem InStep.openOn (h : InStep names a db) {p : StoreParams} (hp : p.IsFor names)
    (ha : p.analyzer = a) : InStep names a (Store.openOn p db).2 := by
  obtain ⟨items, hholds, hcovers⟩ := h
  cases hname : TableNames.ofName p.tableName with
  | error e =>
      rw [openOn_of_refused hname]
      exact ⟨items, hholds, hcovers⟩
  | ok others =>
      obtain rfl := hp others hname
      obtain ⟨made, hopen, hstocked, hindex⟩ := openOn_of_holds hnames hholds hname
      rw [hopen]
      refine ⟨items, Or.inl hstocked, ?_⟩
      intro rows hrows
      rw [hindex] at hrows
      split at hrows
      · exact hcovers rows hrows
      · split at hrows
        · obtain rfl := Table.lexemes.inj (Option.some.inj hrows)
          rw [← ha]
          exact covers_stockRows _ hholds.nodup
        · cases hrows

/-- A write through a hybrid store keeps a database in step, and so does any write while there is no
index. -/
theorem InStep.write (h : InStep names a db) {store : Store} (hserves : Serves names store db)
    (ha : store.params.analyzer = a) {w : Write} (hw : KeepsUp names store db w) {c : Connection}
    (hdone : store.write w (some db) = .ok c) : ∃ made, c = some made ∧ InStep names a made := by
  obtain ⟨items, hholds, hcovers⟩ := h
  obtain ⟨made, rfl, -, hstocked, hkept, hsame⟩ := write_ok_cases hnames hserves hholds hdone
  refine ⟨made, rfl, w.applyTo items, Or.inl hstocked, ?_⟩
  intro rows hrows
  cases hhybrid : store.hybrid with
  | false =>
      have hnone := hw hhybrid
      rw [Store.isIndexed, ← hsame hhybrid, hrows] at hnone
      cases hnone
  | true =>
      obtain ⟨old, hold, hnew⟩ := hkept hhybrid
      rw [hnew] at hrows
      obtain rfl := Table.lexemes.inj (Option.some.inj hrows)
      have hwritten := (hcovers old hold).write hholds.nodup a w
      rw [w.analyzersAfter_const] at hwritten
      rw [ha]
      exact hwritten

/-- Being in step, with stores of one analyzer that have what they need, is kept. -/
theorem maintained_inStep :
    Session.Maintained (InStep names a)
      (fun store db => Serves names store db ∧ store.params.analyzer = a)
      (fun p => p.IsFor names ∧ p.analyzer = a) (KeepsUp names) where
  empty := inStep_of_vacant (vacant_empty names)
  opening := by
    intro p db hp h
    obtain ⟨items, hholds, -⟩ := id h
    refine ⟨h.openOn hnames hp.1 hp.2, ?_, ?_⟩
    · intro store hstore
      obtain ⟨hserves, ha⟩ := Serves.opened hnames hholds hp.1 hstore
      exact ⟨hserves, ha.trans hp.2⟩
    · intro other hother
      exact ⟨hother.1.openOn hnames hholds hp.1, hother.2⟩
  writing := by
    intro store db w c h hfits hw hdone
    obtain ⟨made, rfl, hmade⟩ := h.write hnames hfits.1 hfits.2 hw hdone
    obtain ⟨items, hholds, -⟩ := h
    refine ⟨made, rfl, hmade, ?_⟩
    intro other hother
    exact ⟨hother.1.write hnames hfits.1 hholds hdone, hother.2⟩

end Maintained

/-! ## The rows of an index that is in step -/

/-- The number of distinct lexemes of the text of a row. -/
def DataRow.termCount (a : Analyzer) (row : DataRow) : Nat :=
  (a.lexemes (row.text.text?.getD "")).dedup.length

/-- A session in which nothing has been opened and no database has anything of the logical table. -/
structure Session.Untouched (names : TableNames) (s : Session) : Prop where
  connections : s.connections = []
  handles : s.handles = []
  vacant : ∀ place db, s.disk.databaseAt place = .ok db → Vacant names db

/-- An empty disk is untouched. -/
theorem Session.untouched_empty (names : TableNames) :
    Session.Untouched names { disk := .empty } where
  connections := rfl
  handles := rfl
  vacant place db hdb := Session.fresh_empty.empty place db hdb ▸ vacant_empty names

/-- At the start everything holds, for want of connections and handles. -/
theorem Session.Untouched.upheld {names : TableNames} {s : Session} (h : s.Untouched names)
    {good : Database → Prop} (hgood : ∀ db, Vacant names db → good db)
    (fits : Store → Database → Prop) : s.Upheld good fits :=
  .of_idle h.connections h.handles fun place db hdb =>
    hgood db (h.vacant place db (Disk.databaseAt_of_find? hdb))

/-- The data rows of a stock and the index that covers it. -/
theorem Covers.mem_iff_ofItem {a : Analyzer} {items : List Item} {rows : List LexemeRow}
    (h : Covers (fun _ => a) items rows) (hdistinct : (items.map Item.id).Nodup) (row : LexemeRow) :
    row ∈ rows ↔ ∃ stored ∈ items.map DataRow.ofItem, ∃ text,
      stored.nodeId = .text row.nodeId ∧ stored.text = .text text ∧
        (a.documentTerms text).lookup row.lexeme = some row.frequency := by
  rw [h.mem_iff hdistinct]
  constructor
  · rintro ⟨item, hitem, hid, hterm⟩
    have hstored : DataRow.ofItem item ∈ items.map DataRow.ofItem :=
      List.mem_map.mpr ⟨item, hitem, rfl⟩
    exact ⟨_, hstored, item.node.text, congrArg Cell.text hid, rfl, hterm⟩
  · rintro ⟨stored, hstored, text, hid, htext, hterm⟩
    obtain ⟨item, hitem, rfl⟩ := List.mem_map.mp hstored
    obtain rfl := Cell.text.inj htext
    exact ⟨item, hitem, Cell.text.inj hid, hterm⟩

/-- **The index is in step with the data in every state of every run.**  Its rows are the terms of
the stored texts, each once; and a hybrid store counts as many lexemes as the stored texts have. -/
theorem index_in_step {names : TableNames} (hnames : names.Accepted) {a : Analyzer}
    {start s : Session} (hstart : start.Untouched names)
    (run : Session.Run (fun p => p.IsFor names ∧ p.analyzer = a) (KeepsUp names) start s)
    {db : Database} (hdb : s.Has db) {table : Table}
    (htable : db.table? names.lexemes = some table) :
    ∃ stored rows, db.table? names.data = some (.data stored) ∧ table = .lexemes rows ∧
      (∀ row, row ∈ rows ↔ ∃ d ∈ stored, ∃ text, d.nodeId = .text row.nodeId ∧
        d.text = .text text ∧ (a.documentTerms text).lookup row.lexeme = some row.frequency) ∧
      (rows.map fun row => (row.nodeId, row.lexeme)).Nodup ∧
      ∀ name handle, s.handle? name = some handle → s.connection handle.2 = some db →
        handle.1.hybrid = true → ∃ stats, handle.1.stats (s.connection handle.2) = .ok stats ∧
          stats.lexemes = some (stored.map (DataRow.termCount a)).sum := by
  have hupheld := run.upheld (maintained_inStep hnames)
    (hstart.upheld (fun db h => inStep_of_vacant h) _)
  obtain ⟨items, hholds, hcovers⟩ :=
    hupheld.good_of_has (inStep_of_vacant (vacant_empty names)) hdb
  obtain ⟨hstocked, rows, rfl⟩ := hholds.index htable
  have hrows := hcovers rows htable
  refine ⟨_, rows, hstocked.data, rfl, hrows.mem_iff_ofItem hstocked.distinct,
    hrows.nodup_keys hstocked.distinct, ?_⟩
  intro name handle hhandle hconnection hhybrid
  have hserves := ((hupheld.handles name handle hhandle).2 db hconnection).1
  have hdata := Database.dataRows_eq_ok hstocked.data
  have hlexemes := Database.lexemeRows_eq_ok htable
  rw [← hserves.named] at hdata hlexemes
  refine ⟨⟨handle.1.names.data, (items.map DataRow.ofItem).length, some rows.length,
    handle.1.params.embedDim, handle.1.params.analyzer⟩, ?_, ?_⟩
  · rw [hconnection]
    simp [Store.stats, Store.count, Connection.database, hdata, hlexemes, hhybrid, bind,
      Except.bind, pure, Except.pure]
  · rw [hrows.length_eq hstocked.distinct, List.map_map]
    rfl

/-- A hybrid store in memory that is opened and given one text. -/
def Session.afterAddition : Session :=
  [Operation.openStore "h" (Store.ofAnalyzer .english).params,
    .write "h" (.add [.ofText "a" "red fox, red hen"])].foldl Session.perform { disk := .empty }

/-- The openings and writes so far keep the index in step. -/
theorem Session.run_afterAddition :
    Session.Run (fun p => p.IsFor ⟨"data_t", "data_t_lexemes"⟩ ∧ p.analyzer = .english)
      (KeepsUp ⟨"data_t", "data_t_lexemes"⟩) { disk := .empty } Session.afterAddition := by
  have hname : TableNames.ofName "t" = .ok ⟨"data_t", "data_t_lexemes"⟩ := by rfl
  rw [Session.afterAddition, List.foldl_cons, List.foldl_cons, List.foldl_nil]
  refine .step (.step .refl ?_) ?_
  · exact ⟨fun others hothers => Except.ok.inj (hothers.symm.trans hname), rfl⟩
  · intro handle hhandle db hdb hhybrid
    have hopened : (({ disk := .empty } : Session).perform
        (.openStore "h" (Store.ofAnalyzer .english).params)).handle? "h" =
          some (.ofAnalyzer .english, 0) := by rfl
    rw [hopened] at hhandle
    obtain rfl := Option.some.inj hhandle
    cases hhybrid

/-- After one addition: the text has three distinct lexemes. -/
theorem index_in_step_after_addition :
    ∃ stats, (Store.ofAnalyzer .english).stats (Session.afterAddition.connection 0) = .ok stats ∧
      stats.lexemes = some 3 := by
  have hdb : Session.afterAddition.connection 0 = some
      ⟨[("data_t", .data [.ofItem (.ofText "a" "red fox, red hen")]), ("data_t_lexemes", .lexemes
        (Store.lexemeRowsOf .english "a" "red fox, red hen"))],
        ["idx_data_t_ref_doc", "idx_data_t_lexemes_lexeme"]⟩ := by rfl
  have hhandle : Session.afterAddition.handle? "h" = some (.ofAnalyzer .english, 0) := by rfl
  obtain ⟨stored, rows, hstored, -, -, -, hstats⟩ :=
    index_in_step ⟨"t", by rfl⟩ (Session.untouched_empty _) Session.run_afterAddition
      (Or.inr ⟨0, hdb⟩) (by rfl)
  obtain ⟨stats, hok, hlexemes⟩ := hstats "h" (.ofAnalyzer .english, 0) hhandle hdb rfl
  obtain rfl := Table.data.inj (Option.some.inj hstored)
  exact ⟨stats, hok, hlexemes.trans (by decide +kernel)⟩

end HybridRetrieval
