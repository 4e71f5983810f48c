import HybridRetrieval.CommandLine.Outcome
import HybridRetrieval.Proofs.Session.Stocks
/-!
# The store that a command opens

Every command but one opens a store, acts on it and closes it.  Opening keeps all rows, but it makes
the index of a table that is opened as hybrid for the first time, and fills it with the lexemes of
the stored rows (`Store.OpenedOn`, `openedOn_of_openOn`).  Which database that happens to is decided
by the parameters and the disk alone (`Disk.databaseOf`), and what a command leaves there is what
its action leaves (`Session.openStore_ok`, `CommandLine.withStore_opened`).
-/

namespace HybridRetrieval

/-! ## What an opening leaves -/

/-- What the opening of a store leaves of a database: its tables, and beside them the index with the
lexemes of the stored rows if the store is hybrid and there was none. -/
structure Store.OpenedOn (store : Store) (before found : Database) : Prop where
  tables : ∀ name table, before.table? name = some table → found.table? name = some table
  rows : ∀ table, found.rowsOf table = before.rowsOf table
  plain : store.hybrid = false →
    found.table? store.names.lexemes = before.table? store.names.lexemes
  filled : store.hybrid = true → before.table? store.names.lexemes = none →
    ∃ lexemes, Store.lexemeRowsOfRows store.params.analyzer (before.rowsOf store.names.data) =
        .ok lexemes ∧
      found.table? store.names.lexemes = some (.lexemes lexemes)

/-- The schema of a store without an index has no part beside the data table. -/
theorem SchemaPart.lexemes_of_makeAll {names : TableNames} (hnames : names.Accepted)
    {db made : Database} (h : SchemaPart.makeAll names (schemaParts false) db = (.ok (), made)) :
    made.table? names.lexemes = db.table? names.lexemes := by
  have hne := TableNames.lexemes_ne_data hnames
  obtain ⟨tabled, hdata, hrest⟩ := SchemaPart.makeAll_cons_ok h
  obtain ⟨indexed, hindex, hdone⟩ := SchemaPart.makeAll_cons_ok hrest
  obtain ⟨-, rfl⟩ := Prod.mk.inj hdone
  have htabled : tabled.table? names.lexemes = db.table? names.lexemes := by
    cases hdata with
    | present => rfl
    | dataTable => exact Database.table?_put_of_ne _ _ hne
  rw [← htabled]
  cases hindex with
  | present => rfl
  | documentIndex => rfl

/-- A new index holds the lexemes of the rows that are there. -/
theorem Store.fillIndex_ok {names : TableNames} (hnames : names.Accepted) {analyzer : Analyzer}
    {db filled : Database} (h : Store.fillIndex names analyzer db = .ok filled) :
    ∃ lexemes, Store.lexemeRowsOfRows analyzer (filled.rowsOf names.data) = .ok lexemes ∧
      filled.table? names.lexemes = some (.lexemes lexemes) := by
  obtain ⟨rows, hrows, h⟩ := bind_eq_ok_iff.mp h
  obtain ⟨lexemes, hlexemes, h⟩ := bind_eq_ok_iff.mp h
  obtain rfl := Except.ok.inj h
  refine ⟨lexemes, ?_, Database.table?_put_self _ _ _⟩
  have hdata : (db.put names.lexemes (.lexemes lexemes)).table? names.data = some (.data rows) := by
    rw [Database.table?_put_of_ne _ _ (TableNames.lexemes_ne_data hnames).symm]
    exact Database.table?_of_dataRows hrows
  rwa [Database.rowsOf_eq hdata]

/-- **An opening that succeeds** keeps all rows, and fills an index that it makes. -/
theorem openedOn_of_openOn {p : StoreParams} {before : Database} {store : Store}
    (hstore : (Store.openOn p before).1 = .ok store) :
    store.OpenedOn before (Store.openOn p before).2 := by
  cases hname : TableNames.ofName p.tableName with
  | error e =>
      rw [openOn_of_refused hname] at hstore
      cases hstore
  | ok names =>
      have hnames : names.Accepted := ⟨_, hname⟩
      have hrows := rowsOf_openOn p before
      have htables : ∀ name table, before.table? name = some table →
          (Store.openOn p before).2.table? name = some table :=
        fun _ _ h => table?_openOn h p
      have hopening := opening_of_openOn hname before
      generalize Store.openOn p before = done at hopening hstore hrows htables ⊢
      cases hopening with
      | stopped | unfilled => cases hstore
      | opened schema index =>
          obtain rfl := Except.ok.inj hstore
          refine ⟨htables, hrows, ?_, ?_⟩
          · intro hplain
            rw [Store.hybrid] at hplain
            dsimp only at hplain
            rw [hplain] at schema
            exact SchemaPart.lexemes_of_makeAll hnames schema
          · -- without an index the store would not be hybrid
            intro hhybrid hnone
            have hindexed : Store.isIndexed names before = true := by
              rcases Bool.or_eq_true_iff.mp hhybrid with h | h
              exacts [index h, h]
            rw [Store.isIndexed, hnone] at hindexed
            cases hindexed
      | filled schema hybrid absent fill =>
          obtain rfl := Except.ok.inj hstore
          refine ⟨htables, hrows, ?_, ?_⟩
          · intro hplain
            rw [Store.hybrid, hybrid] at hplain
            cases hplain
          · intro _ _
            obtain ⟨lexemes, hlexemes, hfound⟩ := Store.fillIndex_ok hnames fill
            rw [hrows] at hlexemes
            exact ⟨lexemes, hlexemes, hfound⟩

/-! ## Which database is opened -/

/-- The database that parameters lead to: a new one if it is private or not there yet. -/
def Disk.databaseOf (d : Disk) (p : StoreParams) : Database :=
  if Session.isPrivate p.database then .empty
  else
    match d.find? (databaseLocation p.database) with
    | some (.database db) => db
    | _ => .empty

theorem Disk.databaseOf_private {d : Disk} {p : StoreParams}
    (h : Session.isPrivate p.database = true) : d.databaseOf p = .empty := by
  rw [databaseOf, if_pos h]

theorem Disk.databaseOf_file {d : Disk} {p : StoreParams} {db : Database}
    (hfile : Session.isPrivate p.database = false)
    (h : d.find? (databaseLocation p.database) = some (.database db)) : d.databaseOf p = db := by
  rw [databaseOf, hfile, if_neg Bool.false_ne_true, h]

theorem Disk.databaseOf_missing {d : Disk} {p : StoreParams}
    (h : ∀ db, d.find? (databaseLocation p.database) ≠ some (.database db)) :
    d.databaseOf p = .empty := by
  unfold databaseOf
  split
  · rfl
  · split
    · rename_i db hdb
      exact absurd hdb (h db)
    · rfl

/-- A file is opened on the database that is there, or on an empty one, and is a database then. -/
theorem Disk.openStore_ok {d disk : Disk} {p : StoreParams} {store : Store}
    (hfile : Session.isPrivate p.database = false) (h : d.openStore p = (.ok store, disk)) :
    databaseLocation p.database ≠ [] ∧ (Store.openOn p (d.databaseOf p)).1 = .ok store ∧
      disk.find? (databaseLocation p.database) =
        some (.database (Store.openOn p (d.databaseOf p)).2) := by
  rcases d.openStore_cases p with ⟨⟨e, herror⟩, -⟩ | ⟨db, hroot, hdb, hstore, hafter⟩
  · rw [h] at herror
    cases herror
  · have hbefore : d.databaseOf p = db := by
      rcases hdb with hfound | ⟨hmissing, rfl⟩
      exacts [databaseOf_file hfile hfound, databaseOf_missing hmissing]
    rw [h] at hstore hafter
    rw [hbefore]
    exact ⟨hroot, hstore.symm, (hafter _ _).mpr (by rw [if_pos rfl])⟩

/-- **A session opens a store** on the database that the parameters lead to.  What is stored behind
its connection is found under the same parameters again, unless it is private. -/
theorem Session.openStore_ok {s opened : Session} {p : StoreParams} {store : Store} {number : Nat}
    (hopen : s.openStore p = (.ok (store, number), opened)) :
    (Store.openOn p (s.disk.databaseOf p)).1 = .ok store ∧
      opened.connection number = some (Store.openOn p (s.disk.databaseOf p)).2 ∧
      ∀ made, Session.isPrivate p.database = false →
        (opened.setConnection number (some made)).disk.databaseOf p = made := by
  unfold openStore at hopen
  dsimp only at hopen
  cases hprivate : isPrivate p.database with
  | true =>
      rw [hprivate, if_pos rfl] at hopen
      rw [Disk.databaseOf_private hprivate]
      split at hopen
      · rename_i other found hdone
        obtain ⟨hhandle, rfl⟩ := Prod.mk.inj hopen
        obtain ⟨rfl, rfl⟩ := Prod.mk.inj (Except.ok.inj hhandle)
        rw [hdone]
        refine ⟨rfl, connection_memory (by simp [addConnection]), ?_⟩
        intro _ hfalse
        cases hfalse
      · cases (Prod.mk.inj hopen).1
  | false =>
      rw [hprivate, if_neg Bool.false_ne_true] at hopen
      split at hopen
      · rename_i other disk hdone
        obtain ⟨hhandle, rfl⟩ := Prod.mk.inj hopen
        obtain ⟨rfl, rfl⟩ := Prod.mk.inj (Except.ok.inj hhandle)
        obtain ⟨hroot, hstore, hplace⟩ := Disk.openStore_ok hprivate hdone
        have hconnection : (({ s with disk := disk } : Session).addConnection
            (.file (Disk.databaseLocation p.database))).connections[s.connections.length]? =
              some (some (.file (Disk.databaseLocation p.database))) := by
          simp [addConnection]
        refine ⟨hstore, connection_file hconnection hplace, ?_⟩
        intro made _
        rw [setConnection_file hconnection]
        exact Disk.databaseOf_file hprivate (by rw [Disk.find?_put _ hroot, if_pos rfl])
      · cases (Prod.mk.inj hopen).1

namespace CommandLine

/-- A command on an opened store exits as its action does, and leaves what the action leaves. -/
theorem withStore_opened {d : Disk} {p : StoreParams} {store : Store} {number : Nat}
    {opened : Session} (hopen : Session.openStore { disk := d } p = (.ok (store, number), opened))
    (action : Store → Disk → Action) :
    (withStore d p action).1.exitCode =
        (action store opened.disk (opened.connection number)).1.exitCode ∧
      (withStore d p action).2 = (opened.setConnection number
        (action store opened.disk (opened.connection number)).2).disk := by
  unfold withStore
  dsimp only
  rw [hopen]
  exact ⟨rfl, rfl⟩

end CommandLine

end HybridRetrieval
