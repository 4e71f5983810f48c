import HybridRetrieval.Proofs.Store.Alike
import HybridRetrieval.Proofs.Store.FailedOpening
import HybridRetrieval.Proofs.Store.History
import HybridRetrieval.Proofs.Store.Tidy
/-!
# An index that is made late

The index comes about in two ways: filled from the stored texts by the opening that creates it, or
kept row by row through every write.  Either way it covers the stock, by the analyzer that is in
force throughout (`Accounted.afterEach`, `Accounted.reopen`).  So it does not matter when hybrid
search is enabled (`alike_of_late`): the same writes leave the same stock, and indexes that cover
one stock agree node by node (`Accounted.alike`).

If there was an index before the first opening, it is not filled again, and may hold anything.  But
then a store is hybrid however it is opened, and opening it again changes nothing
(`openOn_of_present`).
-/

namespace HybridRetrieval

namespace StoreParams

/-- The same parameters without hybrid search. -/
def plain (p : StoreParams) : StoreParams := { p with hybridSearch := false }

/-- The same parameters with hybrid search. -/
def hybrid (p : StoreParams) : StoreParams := { p with hybridSearch := true }

end StoreParams

/-! ## Writes one after the other -/

instance (embedDim : Nat) (w : Write) : Decidable (w.Fits embedDim) :=
  match w with
  | .add items => inferInstanceAs (Decidable (∀ item ∈ items, item.embedding.length = embedDim))
  | .delete _ => inferInstanceAs (Decidable True)

/-- The stock after a write; one with an embedding of another length changes nothing. -/
def Write.stockAfter (embedDim : Nat) (items : List Item) (w : Write) : List Item :=
  if w.Fits embedDim then w.applyTo items else items

namespace Store

/-- The database after a write; one that fails changes nothing. -/
def databaseAfter (s : Store) (db : Database) (w : Write) : Database :=
  match s.write w (some db) with
  | .ok (some made) => made
  | _ => db

/-- The database after writes one after the other. -/
def afterEach (s : Store) (db : Database) (ws : List Write) : Database :=
  ws.foldl s.databaseAfter db

variable {s : Store} {db made : Database} {w : Write}

theorem databaseAfter_of_ok (h : s.write w (some db) = .ok (some made)) :
    s.databaseAfter db w = made := by
  rw [databaseAfter, h]

theorem databaseAfter_of_error {e : Error} (h : s.write w (some db) = .error e) :
    s.databaseAfter db w = db := by
  rw [databaseAfter, h]

end Store

/-! ## With an account of the index -/

section Accounted

variable {names : TableNames} (hnames : names.Accepted) {a : Analyzer} {store : Store}
  {db : Database} {items : List Item}
include hnames

/-- The open store finds its tables. -/
theorem Accounted.equipped {analyzerOf : String → Analyzer}
    (h : Accounted names (some store) db analyzerOf items) : Equipped store db := by
  obtain ⟨hserves, -⟩ := h.serves store rfl
  obtain rfl := hserves.named
  exact ⟨hnames, ⟨_, (h.holds.stocked hserves.data).data⟩, hserves.exists_index h.holds⟩

/-- A write, also one that fails, through a store of the analyzer in force. -/
theorem Accounted.databaseAfter (h : Accounted names (some store) db (fun _ => a) items)
    (ha : store.params.analyzer = a) (w : Write) :
    Accounted names (some store) (store.databaseAfter db w) (fun _ => a)
      (w.stockAfter store.params.embedDim items) := by
  unfold Write.stockAfter
  split
  · rename_i hfits
    obtain ⟨rows, hrows⟩ := (h.equipped hnames).data
    obtain ⟨made, hwrite, -⟩ := Store.write_of_equipped (h.equipped hnames) hrows hfits
    have hwritten := h.writing hnames hwrite
    rw [ha, w.analyzersAfter_const, ite_self] at hwritten
    rw [Store.databaseAfter_of_ok hwrite]
    exact hwritten
  · rename_i hnot
    obtain ⟨e, herror⟩ := Store.write_of_not_fits hnot (some db)
    rw [Store.databaseAfter_of_error herror]
    exact h

/-- **Writes one after the other** leave a stock that depends on the stock before and the length of
embeddings alone, and an index that covers it if there was one before. -/
theorem Accounted.afterEach (h : Accounted names (some store) db (fun _ => a) items)
    (ha : store.params.analyzer = a) (ws : List Write) :
    Accounted names (some store) (store.afterEach db ws) (fun _ => a)
      (ws.foldl (Write.stockAfter store.params.embedDim) items) := by
  induction ws generalizing db items with
  | nil => exact h
  | cons w rest ih => exact ih (h.databaseAfter hnames ha w)

/-- **Opening with the analyzer in force** keeps the account, also if the index is new. -/
theorem Accounted.reopen (h : Accounted names none db (fun _ => a) items) {p : StoreParams}
    (hname : TableNames.ofName p.tableName = .ok names) (ha : p.analyzer = a) :
    (Store.openOn p db).1 =
        .ok ⟨names, { p with hybridSearch := p.hybridSearch || Store.isIndexed names db }⟩ ∧
      Accounted names
        (some ⟨names, { p with hybridSearch := p.hybridSearch || Store.isIndexed names db }⟩)
        (Store.openOn p db).2 (fun _ => a) items := by
  obtain ⟨made, hopen, -⟩ := openOn_of_holds hnames h.holds hname
  have hfor : p.IsFor names := fun others hothers => Except.ok.inj (hothers.symm.trans hname)
  have hopened := h.opening hnames hfor hopen
  obtain rfl := ha
  rw [ite_self] at hopened
  rw [hopen]
  exact ⟨rfl, hopened⟩

omit hnames in
/-- What a hybrid store finds: the rows of the stock, and an index that covers it. -/
theorem Accounted.exists_rows {analyzerOf : String → Analyzer}
    (h : Accounted names (some store) db analyzerOf items) (hhybrid : store.hybrid = true) :
    db.dataRows store.names.data = .ok (items.map DataRow.ofItem) ∧
      ∃ rows, db.lexemeRows store.names.lexemes = .ok rows ∧ Covers analyzerOf items rows := by
  obtain ⟨hserves, -⟩ := h.serves store rfl
  obtain rfl := hserves.named
  refine ⟨Database.dataRows_eq_ok (h.holds.stocked hserves.data).data, ?_⟩
  obtain ⟨rows, htable⟩ := hserves.exists_index h.holds hhybrid
  exact ⟨rows, Database.lexemeRows_eq_ok htable, h.covers rows htable⟩

omit hnames in
/-- **Indexes that cover one stock** make no difference. -/
theorem Accounted.alike {analyzerOf : String → Analyzer} {x y : Database}
    (hx : Accounted names (some store) x analyzerOf items)
    (hy : Accounted names (some store) y analyzerOf items) (hhybrid : store.hybrid = true) :
    store.Alike x y := by
  obtain ⟨hxrows, xs, hxs, hxcovers⟩ := hx.exists_rows hhybrid
  obtain ⟨hyrows, ys, hys, hycovers⟩ := hy.exists_rows hhybrid
  exact Store.alike_of_ofNode hxrows hyrows hxs hys fun id => (hxcovers id).trans (hycovers id).symm

end Accounted

/-! ## Where there is an index already -/

section Present

variable {p : StoreParams} {names : TableNames} {db made : Database}

/-- Where there is an index a store is opened as hybrid in any case. -/
theorem openOn_plain_of_isIndexed (hname : TableNames.ofName p.tableName = .ok names)
    (hindexed : Store.isIndexed names db = true) :
    Store.openOn p.plain db = Store.openOn p.hybrid db := by
  simp [Store.openOn, StoreParams.plain, StoreParams.hybrid, hname, hindexed]

/-- **Where the whole schema is there** an opening changes nothing. -/
theorem openOn_of_present (hname : TableNames.ofName p.tableName = .ok names)
    (hpresent : ∀ part : SchemaPart, part.isPresent names db = true) :
    Store.openOn p.hybrid db = (.ok ⟨names, p.hybrid⟩, db) := by
  have hindexed : Store.isIndexed names db = true := hpresent .lexemeTable
  have hall : SchemaPart.makeAll names (schemaParts true) db = (.ok (), db) :=
    SchemaPart.makeAll_of_noop fun part _ =>
      SchemaPart.make_of_present (hpresent part) (hpresent part.table)
  simp [Store.openOn, StoreParams.hybrid, hname, hindexed, hall]

/-- The parts of the schema stay where tables keep their kinds and indexes stay. -/
theorem isPresent_of_keepsKinds (hkinds : KeepsKinds db made) (hindexes : made.indexes = db.indexes)
    {part : SchemaPart} (h : part.isPresent names db = true) :
    part.isPresent names made = true := by
  have htable : ∀ name, (db.table? name).isSome = true → (made.table? name).isSome = true := by
    intro name hname
    obtain ⟨table, htable⟩ := Option.isSome_iff_exists.mp hname
    obtain ⟨next, hnext, -⟩ := hkinds name table htable
    rw [hnext]
    rfl
  cases part with
  | dataTable | lexemeTable => exact htable _ h
  | documentIndex | lexemeIndex => rwa [SchemaPart.isPresent, hindexes]

/-- Writes leave a store its tables, every table its kind, and the indexes as they are. -/
theorem Equipped.afterEach {store : Store} (h : Equipped store db) (ws : List Write) :
    Equipped store (store.afterEach db ws) ∧ KeepsKinds db (store.afterEach db ws) ∧
      (store.afterEach db ws).indexes = db.indexes := by
  induction ws generalizing db with
  | nil => exact ⟨h, .refl db, rfl⟩
  | cons w rest ih =>
      have hone : KeepsKinds db (store.databaseAfter db w) ∧
          (store.databaseAfter db w).indexes = db.indexes := by
        unfold Store.databaseAfter
        split
        · rename_i made hwrite
          obtain ⟨rows, hrows⟩ := h.data
          obtain ⟨-, _, heq, hleaves⟩ := Store.leaves_of_write h hrows hwrite
          obtain rfl := Option.some.inj heq
          exact ⟨hleaves.keepsKinds h hrows, hleaves.indexes⟩
        · exact ⟨.refl db, rfl⟩
      obtain ⟨hrest, hkinds, hindexes⟩ := ih (h.of_kinds hone.1)
      exact ⟨hrest, hone.1.trans hkinds, hindexes.trans hone.2⟩

/-- A database is like itself for a hybrid store that finds its tables. -/
theorem Equipped.alike {store : Store} (h : Equipped store db) (hhybrid : store.hybrid = true) :
    store.Alike db db := by
  obtain ⟨rows, hrows⟩ := h.data
  obtain ⟨lexemes, hlexemes⟩ := h.index hhybrid
  exact Store.alike_of_ofNode (Database.dataRows_eq_ok hrows) (Database.dataRows_eq_ok hrows)
    (Database.lexemeRows_eq_ok hlexemes) (Database.lexemeRows_eq_ok hlexemes) fun _ => rfl

end Present

/-! ## Late and early -/

/-- Opens a store and writes to it. -/
def Store.openAndWrite (p : StoreParams) (db : Database) (ws : List Write) :
    Except Error (Store × Database) :=
  match Store.openOn p db with
  | (.ok store, made) => .ok (store, store.afterEach made ws)
  | (.error e, _) => .error e

section Late

variable {p : StoreParams} {names : TableNames} {db : Database}

theorem openAndWrite_eq_ok_iff {ws : List Write} {store : Store} {next : Database} :
    Store.openAndWrite p db ws = .ok (store, next) ↔
      (Store.openOn p db).1 = .ok store ∧ next = store.afterEach (Store.openOn p db).2 ws := by
  unfold Store.openAndWrite
  generalize Store.openOn p db = done
  obtain ⟨result, made⟩ := done
  cases result with
  | error e => simp
  | ok opened =>
      simp only [Except.ok.injEq, Prod.mk.injEq]
      constructor
      · rintro ⟨rfl, rfl⟩
        exact ⟨rfl, rfl⟩
      · rintro ⟨rfl, rfl⟩
        exact ⟨rfl, rfl⟩

/-- Writing to a store that could be opened. -/
theorem openAndWrite_of_openOn {store : Store} (h : (Store.openOn p db).1 = .ok store)
    (ws : List Write) :
    Store.openAndWrite p db ws = .ok (store, store.afterEach (Store.openOn p db).2 ws) :=
  openAndWrite_eq_ok_iff.mpr ⟨h, rfl⟩

/-- A store that is opened as hybrid has the parameters that it was opened with. -/
theorem eq_of_openOn_hybrid (hname : TableNames.ofName p.tableName = .ok names) {store : Store}
    (h : (Store.openOn p.hybrid db).1 = .ok store) : store = ⟨names, p.hybrid⟩ := by
  have hopening := opening_of_openOn (p := p.hybrid) hname db
  generalize Store.openOn p.hybrid db = done at hopening h
  cases hopening with
  | stopped | unfilled => cases h
  | opened | filled => exact (Except.ok.inj h).symm

/-- **Late is early** where there is an index already. -/
theorem alike_of_indexed (hname : TableNames.ofName p.tableName = .ok names)
    (hshaped : WellShaped db) (hopen : (Store.openOn p.hybrid db).1 = .ok ⟨names, p.hybrid⟩)
    (hindexed : Store.isIndexed names db = true) (first last : List Write) :
    ∃ plain mid late early, Store.openAndWrite p.plain db first = .ok (plain, mid) ∧
      Store.openAndWrite p.hybrid mid last = .ok (⟨names, p.hybrid⟩, late) ∧
      Store.openAndWrite p.hybrid db (first ++ last) = .ok (⟨names, p.hybrid⟩, early) ∧
      Store.Alike ⟨names, p.hybrid⟩ late early := by
  obtain ⟨-, -, hequips⟩ := hshaped.openOn p.hybrid
  have hequipped := hequips _ hopen
  have hpresent : ∀ part : SchemaPart, part.isPresent names (Store.openOn p.hybrid db).2 = true :=
    fun part => (isPresent_of_openOn (p := p.hybrid) hname db hopen).2 part (by
      cases part <;> simp [schemaParts, Store.hybrid, StoreParams.hybrid])
  obtain ⟨hmid, hkinds, hindexes⟩ := hequipped.afterEach first
  -- the second opening finds all that the first one made
  have hagain := openOn_of_present hname fun part =>
    isPresent_of_keepsKinds hkinds hindexes (hpresent part)
  have hplain := openAndWrite_of_openOn hopen first
  have hlate := openAndWrite_of_openOn (congrArg Prod.fst hagain) last
  rw [hagain] at hlate
  refine ⟨⟨names, p.hybrid⟩, _, _, _, ?_, hlate, openAndWrite_of_openOn hopen (first ++ last), ?_⟩
  · rw [Store.openAndWrite, openOn_plain_of_isIndexed hname hindexed]
    exact hplain
  · rw [Store.afterEach, Store.afterEach, Store.afterEach, List.foldl_append]
    exact (hmid.afterEach last).1.alike rfl

/-- **Late is early** where there is no index yet: the one that is filled and the one that is kept
cover the same stock. -/
theorem alike_of_unindexed (hname : TableNames.ofName p.tableName = .ok names) {items : List Item}
    (hholds : Holds names db items) (habsent : Store.isIndexed names db = false)
    (first last : List Write) :
    ∃ plain mid late early, Store.openAndWrite p.plain db first = .ok (plain, mid) ∧
      Store.openAndWrite p.hybrid mid last = .ok (⟨names, p.hybrid⟩, late) ∧
      Store.openAndWrite p.hybrid db (first ++ last) = .ok (⟨names, p.hybrid⟩, early) ∧
      Store.Alike ⟨names, p.hybrid⟩ late early := by
  have hnames : names.Accepted := ⟨_, hname⟩
  have hstart : Accounted names none db (fun _ => p.analyzer) items := by
    -- as there is no index, any analyzer may stand for the nodes so far
    refine ⟨hholds, fun rows hrows => ?_, by simp⟩
    rw [Store.isIndexed, hrows] at habsent
    cases habsent
  obtain ⟨hplain, hopened⟩ := hstart.reopen hnames (p := p.plain) hname rfl
  obtain ⟨hlate, hreopened⟩ := (hopened.afterEach hnames rfl first).closing.reopen hnames
    (p := p.hybrid) hname rfl
  obtain ⟨hearly, hhybrid⟩ := hstart.reopen hnames (p := p.hybrid) hname rfl
  refine ⟨_, _, _, _, openAndWrite_of_openOn hplain first, openAndWrite_of_openOn hlate last,
    openAndWrite_of_openOn hearly (first ++ last), ?_⟩
  have hboth := hhybrid.afterEach hnames rfl (first ++ last)
  rw [List.foldl_append] at hboth
  exact (hreopened.afterEach hnames rfl last).alike hboth rfl

/-- **It does not matter when hybrid search is enabled.**  Where a store can be opened as hybrid, it
can be opened without hybrid search, written to, and opened again with it.  After any further writes
its database is like the one that all these writes leave in a store that is hybrid from the
beginning. -/
theorem alike_of_late (hkept : WellKept db) (hshaped : WellShaped db) (htidy : Tidy db)
    {store : Store} (hopen : (Store.openOn p.hybrid db).1 = .ok store) (first last : List Write) :
    store.hybrid = true ∧ ∃ plain mid late early,
      Store.openAndWrite p.plain db first = .ok (plain, mid) ∧
      Store.openAndWrite p.hybrid mid last = .ok (store, late) ∧
      Store.openAndWrite p.hybrid db (first ++ last) = .ok (store, early) ∧
      store.Alike late early := by
  cases hname : TableNames.ofName p.tableName with
  | error e =>
      have hrefused := openOn_of_refused (p := p.hybrid) hname db
      rw [hrefused] at hopen
      cases hopen
  | ok names =>
      obtain rfl := eq_of_openOn_hybrid hname hopen
      refine ⟨rfl, ?_⟩
      cases hindexed : Store.isIndexed names db with
      | true => exact alike_of_indexed hname hshaped hopen hindexed first last
      | false =>
          obtain ⟨items, hholds⟩ := htidy.exists_holds hkept (p := p.hybrid) hname hopen hindexed
          exact alike_of_unindexed hname hholds hindexed first last

end Late

end HybridRetrieval
