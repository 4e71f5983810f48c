import HybridRetrieval.Proofs.Session.IndexInStep
/-!
# Through which handle to write

Handles on one database differ in what they write: a handle that was opened before the index was
created is not hybrid and leaves the index alone.  Two handles of the same parameters leave the same
rows exactly if both or neither of them is hybrid, or the write fails, or there is nothing to change
in the index (`sameRows_iff`).
-/

namespace HybridRetrieval

/-- The rows of the index, if there is one. -/
def indexRows? (names : TableNames) (db : Database) : Option (List LexemeRow) :=
  match db.table? names.lexemes with
  | some (.lexemes rows) => some rows
  | _ => none

/-- The same data rows in the same order, and the same lexeme rows in any order. -/
def SameRows (names : TableNames) (x y : Connection) : Prop :=
  x.map (fun db => db.table? names.data) = y.map (fun db => db.table? names.data) ∧
    Option.Rel List.Perm (x.bind (indexRows? names)) (y.bind (indexRows? names))

theorem SameRows.refl (names : TableNames) (c : Connection) : SameRows names c c := by
  refine ⟨rfl, ?_⟩
  cases c.bind (indexRows? names) with
  | none => exact .none
  | some rows => exact .some (List.Perm.refl rows)

/-- Databases with the same data rows differ in their indexes only. -/
theorem sameRows_some_iff {names : TableNames} {x y : Database}
    (hdata : x.table? names.data = y.table? names.data) {rows others : List LexemeRow}
    (hx : indexRows? names x = some rows) (hy : indexRows? names y = some others) :
    SameRows names (some x) (some y) ↔ rows.Perm others := by
  rw [SameRows, Option.map_some, Option.map_some, hdata, Option.bind_some, Option.bind_some, hx, hy]
  constructor
  · rintro ⟨-, h⟩
    cases h with
    | some hperm => exact hperm
  · intro h
    exact ⟨rfl, .some h⟩

/-- For every node that the write touches, the index already is as it ought to be afterwards. -/
def Write.Settled (a : Analyzer) (items : List Item) (rows : List LexemeRow) (w : Write) : Prop :=
  ∀ id due, w.due? a items id = some due → (LexemeRow.ofNode id rows).Perm due

/-- A settled write, and no other, leaves the index as it is. -/
theorem Write.reindex_perm_iff {a : Analyzer} {items : List Item}
    (hdistinct : (items.map Item.id).Nodup) {rows : List LexemeRow} {w : Write} :
    rows.Perm (w.reindex a items rows) ↔ w.Settled a items rows := by
  rw [LexemeRow.perm_iff_ofNode]
  constructor
  · intro h id due hdue
    have hid := h id
    rw [Write.ofNode_reindex a hdistinct, hdue] at hid
    exact hid
  · intro h id
    rw [Write.ofNode_reindex a hdistinct]
    cases hdue : w.due? a items id with
    | none => exact List.Perm.refl _
    | some due => exact h id due hdue

/-- Holding a stock, with stores that have what they need, is kept by whatever stores do. -/
theorem maintained_holds {names : TableNames} (hnames : names.Accepted) :
    Session.Maintained (fun db => ∃ items, Holds names db items) (Serves names)
      (fun p => p.IsFor names) (fun _ _ _ => True) where
  empty := ⟨[], Or.inr ⟨vacant_empty names, rfl⟩⟩
  opening := by
    rintro p db hp ⟨items, hholds⟩
    refine ⟨?_, ?_, ?_⟩
    · cases hname : TableNames.ofName p.tableName with
      | error e =>
          rw [openOn_of_refused hname]
          exact ⟨items, hholds⟩
      | ok others =>
          obtain rfl := hp others hname
          obtain ⟨made, hopen, hstocked, -⟩ := openOn_of_holds hnames hholds hname
          rw [hopen]
          exact ⟨items, Or.inl hstocked⟩
    · intro store hstore
      exact (Serves.opened hnames hholds hp hstore).1
    · intro other hother
      exact hother.openOn hnames hholds hp
  writing := by
    rintro store db w c ⟨items, hholds⟩ hserves - hdone
    obtain ⟨made, rfl, -, hstocked, -⟩ := write_ok_cases hnames hserves hholds hdone
    exact ⟨made, rfl, ⟨_, Or.inl hstocked⟩, fun other hother =>
      hother.write hnames hserves hholds hdone⟩

namespace Session

/-- Two connections lead to one database: they are the same, or lead to the same file. -/
def SameDatabase (s : Session) (m n : Nat) : Prop :=
  m = n ∨ ∃ place, s.connections[m]? = some (some (.file place)) ∧
    s.connections[n]? = some (some (.file place))

theorem SameDatabase.connection_eq {s : Session} {m n : Nat} (h : s.SameDatabase m n) :
    s.connection m = s.connection n := by
  rcases h with rfl | ⟨place, hm, hn⟩
  · rfl
  · rw [connection, connection, hm, hn]

end Session

section Choice

variable {names : TableNames} (hnames : names.Accepted) {s : Session}
  (hupheld : s.Upheld (fun db => ∃ items, Holds names db items) (Serves names))
include hnames hupheld

/-- A write of the right lengths through a handle: the rows afterwards. -/
theorem connection_writeThrough {handle : Store × Nat} {db : Database} {items : List Item}
    (hserves : Serves names handle.1 db) (hdb : s.connection handle.2 = some db)
    (hstocked : Stocked names db items) {w : Write} (hfits : w.Fits handle.1.params.embedDim) :
    ∃ made, (s.writeThrough handle w).connection handle.2 = some made ∧
      made.table? names.data = some (.data ((w.applyTo items).map DataRow.ofItem)) ∧
      indexRows? names made = (indexRows? names db).map fun rows =>
        if handle.1.hybrid then w.reindex handle.1.params.analyzer items rows else rows := by
  cases hhybrid : handle.1.hybrid with
  | false =>
      have hnone : handle.1.hybrid = true → db.table? names.lexemes = some (.lexemes []) := by
        simp [hhybrid]
      obtain ⟨made, hwrite, hmade, hindex⟩ :=
        Store.write_of_stocked hnames hserves.named hstocked hfits hnone
      rw [← hdb] at hwrite
      rw [Session.writeThrough_ok hwrite]
      refine ⟨made, hupheld.connection_store hdb made, hmade.data, ?_⟩
      simp [indexRows?, hindex, hhybrid]
  | true =>
      obtain ⟨rows, htable⟩ := hserves.exists_index (Or.inl hstocked) hhybrid
      obtain ⟨made, hwrite, hmade, hindex⟩ :=
        Store.write_of_stocked hnames hserves.named hstocked hfits (fun _ => htable)
      rw [← hdb] at hwrite
      rw [Session.writeThrough_ok hwrite]
      refine ⟨made, hupheld.connection_store hdb made, hmade.data, ?_⟩
      simp [indexRows?, hindex, htable, hhybrid]

omit hnames hupheld in
/-- A write of a wrong length leaves the session alone. -/
theorem writeThrough_of_not_fits {handle : Store × Nat} {w : Write}
    (h : ¬ w.Fits handle.1.params.embedDim) : s.writeThrough handle w = s := by
  obtain ⟨e, herror⟩ := Store.write_of_not_fits h (s.connection handle.2)
  exact Session.writeThrough_error herror

end Choice

/-- Without an index no store is hybrid. -/
theorem Serves.hybrid_eq_false {names : TableNames} {store : Store} {db : Database}
    (h : Serves names store db) {items : List Item} (hstocked : Stocked names db items)
    (hnone : indexRows? names db = none) : store.hybrid = false := by
  by_contra hhybrid
  obtain ⟨rows, htable⟩ := h.exists_index (Or.inl hstocked) (by simpa using hhybrid)
  rw [indexRows?, htable] at hnone
  cases hnone

/-- **Which handle writes matters exactly when it changes the index.**  After any run, two handles
on one database, of the same dimension and analyzer, leave the same rows if and only if both are
hybrid or neither is, or the write fails, or the index needs no change. -/
theorem sameRows_iff {names : TableNames} (hnames : names.Accepted) {start s : Session}
    (hstart : start.Untouched names)
    (run : Session.Run (fun p => p.IsFor names) (fun _ _ _ => True) start s)
    {left right : String} {l r : Store × Nat} (hl : s.handle? left = some l)
    (hr : s.handle? right = some r) (hsame : s.SameDatabase l.2 r.2) {db : Database}
    (hdb : s.connection l.2 = some db) (hdim : l.1.params.embedDim = r.1.params.embedDim)
    (ha : l.1.params.analyzer = r.1.params.analyzer) (w : Write) :
    ∃ items, db.table? names.data = some (.data (items.map DataRow.ofItem)) ∧
      (SameRows names ((s.perform (.write left w)).connection l.2)
          ((s.perform (.write right w)).connection r.2) ↔
        l.1.hybrid = r.1.hybrid ∨ ¬ w.Fits l.1.params.embedDim ∨
          ∃ rows, indexRows? names db = some rows ∧ w.Settled l.1.params.analyzer items rows) := by
  have hempty : ∃ items, Holds names .empty items := ⟨[], Or.inr ⟨vacant_empty names, rfl⟩⟩
  have hupheld := run.upheld (maintained_holds hnames)
    (hstart.upheld (fun db h => ⟨[], Or.inr ⟨h, rfl⟩⟩) _)
  have hdb' : s.connection r.2 = some db := hsame.connection_eq ▸ hdb
  have hservesl := (hupheld.handles left l hl).2 db hdb
  have hservesr := (hupheld.handles right r hr).2 db hdb'
  obtain ⟨items, hholds⟩ := hupheld.good_of_has hempty (Or.inr ⟨_, hdb⟩)
  have hstocked := hholds.stocked hservesl.data
  refine ⟨items, hstocked.data, ?_⟩
  rw [Session.perform_write hl, Session.perform_write hr]
  by_cases hfits : w.Fits l.1.params.embedDim
  · obtain ⟨x, hx, hxdata, hxindex⟩ :=
      connection_writeThrough hnames hupheld hservesl hdb hstocked hfits
    obtain ⟨y, hy, hydata, hyindex⟩ :=
      connection_writeThrough hnames hupheld hservesr hdb' hstocked (hdim ▸ hfits)
    rw [hx, hy]
    have hdata := hxdata.trans hydata.symm
    cases hrows : indexRows? names db with
    | none =>
        have hequal : l.1.hybrid = r.1.hybrid :=
          (hservesl.hybrid_eq_false hstocked hrows).trans
            (hservesr.hybrid_eq_false hstocked hrows).symm
        rw [hrows] at hxindex hyindex
        refine iff_of_true ⟨by simp [hdata], ?_⟩ (Or.inl hequal)
        rw [Option.bind_some, Option.bind_some, hxindex, hyindex]
        exact .none
    | some rows =>
        rw [hrows, Option.map_some] at hxindex hyindex
        rw [sameRows_some_iff hdata hxindex hyindex, ← ha]
        have hsettled : rows.Perm (w.reindex l.1.params.analyzer items rows) ↔
            w.Settled l.1.params.analyzer items rows := Write.reindex_perm_iff hstocked.distinct
        cases hlh : l.1.hybrid <;> cases hrh : r.1.hybrid
        · simp
        · simpa [hfits] using hsettled
        · simpa [hfits, List.perm_comm] using hsettled
        · simp
  · rw [writeThrough_of_not_fits hfits, writeThrough_of_not_fits (hdim ▸ hfits),
      ← hsame.connection_eq]
    exact iff_of_true (SameRows.refl names _) (Or.inr (Or.inl hfits))

/-- One handle from before and one from after the creation of the index. -/
def Session.beforeAndAfter : Session :=
  [Operation.openStore "before" { database := "d", tableName := "t", embedDim := 0 },
    .openStore "after" { database := "d", tableName := "t", embedDim := 0, hybridSearch := true }]
    |>.foldl Session.perform { disk := .empty }

/-- The two handles of `beforeAndAfter` are reached by openings alone. -/
theorem Session.run_beforeAndAfter :
    Session.Run (fun p => p.IsFor ⟨"data_t", "data_t_lexemes"⟩) (fun _ _ _ => True)
      { disk := .empty } Session.beforeAndAfter := by
  have hname : TableNames.ofName "t" = .ok ⟨"data_t", "data_t_lexemes"⟩ := by rfl
  have hfor : ∀ p : StoreParams, p.tableName = "t" → p.IsFor ⟨"data_t", "data_t_lexemes"⟩ := by
    intro p hp others hothers
    rw [hp, hname] at hothers
    exact (Except.ok.inj hothers).symm
  rw [Session.beforeAndAfter, List.foldl_cons, List.foldl_cons, List.foldl_nil]
  exact .step (.step .refl (hfor _ rfl)) (hfor _ rfl)

/-- Deleting a document that nothing was taken from leaves the same rows through either handle. -/
theorem sameRows_beforeAndAfter_delete :
    SameRows ⟨"data_t", "data_t_lexemes"⟩
      ((Session.beforeAndAfter.perform (.write "before" (.delete "doc"))).connection 0)
      ((Session.beforeAndAfter.perform (.write "after" (.delete "doc"))).connection 1) := by
  have hdb : Session.beforeAndAfter.connection 0 = some
      ⟨[("data_t", .data []), ("data_t_lexemes", .lexemes [])],
        ["idx_data_t_ref_doc", "idx_data_t_lexemes_lexeme"]⟩ := by rfl
  have hfile : Session.beforeAndAfter.SameDatabase 0 1 := Or.inr ⟨["d"], by rfl, by rfl⟩
  have hbefore : Session.beforeAndAfter.handle? "before" =
      some (⟨⟨"data_t", "data_t_lexemes"⟩,
        { database := "d", tableName := "t", embedDim := 0 }⟩, 0) := by rfl
  have hafter : Session.beforeAndAfter.handle? "after" =
      some (⟨⟨"data_t", "data_t_lexemes"⟩,
        { database := "d", tableName := "t", embedDim := 0, hybridSearch := true }⟩, 1) := by rfl
  obtain ⟨items, hdata, hiff⟩ := sameRows_iff ⟨"t", by rfl⟩ (Session.untouched_empty _)
    Session.run_beforeAndAfter hbefore hafter hfile hdb rfl rfl (.delete "doc")
  refine hiff.mpr (Or.inr (Or.inr ⟨[], by rfl, ?_⟩))
  intro id due hdue
  have hnone : items = [] := by
    have hmap := Table.data.inj (Option.some.inj hdata)
    exact List.map_eq_nil_iff.mp hmap.symm
  rw [hnone] at hdue
  cases hdue

/-- **The handle matters.**  Adding a node through the handle from before the index was created
leaves the index without the lexemes of the node; through the other handle it does not. -/
theorem not_sameRows_beforeAndAfter_add :
    ∃ l r, Session.beforeAndAfter.handle? "before" = some l ∧
      Session.beforeAndAfter.handle? "after" = some r ∧
      Session.beforeAndAfter.SameDatabase l.2 r.2 ∧
      l.1.params.embedDim = r.1.params.embedDim ∧ l.1.params.analyzer = r.1.params.analyzer ∧
      ¬ SameRows ⟨"data_t", "data_t_lexemes"⟩
        ((Session.beforeAndAfter.perform
          (.write "before" (.add [.ofText "n" "fox"]))).connection l.2)
        ((Session.beforeAndAfter.perform
          (.write "after" (.add [.ofText "n" "fox"]))).connection r.2) := by
  refine ⟨(⟨⟨"data_t", "data_t_lexemes"⟩, { database := "d", tableName := "t", embedDim := 0 }⟩, 0),
    (⟨⟨"data_t", "data_t_lexemes"⟩,
      { database := "d", tableName := "t", embedDim := 0, hybridSearch := true }⟩, 1),
    by rfl, by rfl, Or.inr ⟨["d"], by rfl, by rfl⟩, rfl, rfl, ?_⟩
  have hbefore : (Session.beforeAndAfter.perform
      (.write "before" (.add [.ofText "n" "fox"]))).connection 0 = some
        ⟨[("data_t", .data [.ofItem (.ofText "n" "fox")]), ("data_t_lexemes", .lexemes [])],
          ["idx_data_t_ref_doc", "idx_data_t_lexemes_lexeme"]⟩ := by rfl
  have hafter : (Session.beforeAndAfter.perform
      (.write "after" (.add [.ofText "n" "fox"]))).connection 1 = some
        ⟨[("data_t", .data [.ofItem (.ofText "n" "fox")]),
          ("data_t_lexemes", .lexemes (Store.lexemeRowsOf .english "n" "fox"))],
          ["idx_data_t_ref_doc", "idx_data_t_lexemes_lexeme"]⟩ := by rfl
  dsimp only
  rw [hbefore, hafter, sameRows_some_iff (by rfl) (by rfl) (by rfl)]
  intro hperm
  have hlength := hperm.length_eq
  rw [Store.lexemeRowsOf, List.length_map, Analyzer.length_documentTerms] at hlength
  exact absurd hlength (by decide +kernel)

end HybridRetrieval
