import HybridRetrieval.Proofs.Store.Opening
import HybridRetrieval.Proofs.Store.Stocked
/-!
# Stores and the databases they serve

`Holds names db items` says what a database holds under a logical table before and after its first
opening alike: the stock `items`, or nothing at all.  `Serves names store db` says what a store may
rely on from its opening on: its data table is there, and so is the index if the store is hybrid.

Opening a database that holds a stock succeeds (`openOn_of_holds`) and gives a store that serves it;
no opening and no write takes from another store what it relies on (`Serves.openOn`,
`Serves.write`).
-/

namespace HybridRetrieval

/-- The database holds the items, or it has never been opened and there are none. -/
def Holds (names : TableNames) (db : Database) (items : List Item) : Prop :=
  Stocked names db items ∨ Vacant names db ∧ items = []

/-- The database has what a store needs. -/
structure Serves (names : TableNames) (store : Store) (db : Database) : Prop where
  named : store.names = names
  data : (db.table? names.data).isSome = true
  index : store.hybrid = true → Store.isIndexed names db = true

/-- The names that the parameters give, if they are accepted, are those of the logical table. -/
def StoreParams.IsFor (names : TableNames) (p : StoreParams) : Prop :=
  ∀ others, TableNames.ofName p.tableName = .ok others → others = names

section Served

variable {names : TableNames} {db : Database} {items : List Item}

theorem Holds.stocked (h : Holds names db items) (hdata : (db.table? names.data).isSome = true) :
    Stocked names db items := by
  rcases h with h | ⟨h, -⟩
  · exact h
  · rw [h.data] at hdata
    cases hdata

theorem Holds.nodup (h : Holds names db items) : (items.map Item.id).Nodup := by
  rcases h with h | ⟨-, rfl⟩
  · exact h.distinct
  · exact List.nodup_nil

/-- What an index of a database that holds a stock looks like. -/
theorem Holds.index (h : Holds names db items) {table : Table}
    (htable : db.table? names.lexemes = some table) :
    Stocked names db items ∧ ∃ rows, table = .lexemes rows := by
  rcases h with h | ⟨h, -⟩
  · exact ⟨h, h.index table htable⟩
  · rw [h.lexemes] at htable
    cases htable

/-- A hybrid store finds its index. -/
theorem Serves.exists_index {store : Store} (h : Serves names store db)
    (hholds : Holds names db items) (hhybrid : store.hybrid = true) :
    ∃ rows, db.table? names.lexemes = some (.lexemes rows) := by
  obtain ⟨table, htable⟩ := Option.isSome_iff_exists.mp (h.index hhybrid)
  obtain ⟨-, rows, rfl⟩ := hholds.index htable
  exact ⟨rows, htable⟩

/-- What opening leaves of an index: it is there afterwards if it was before or is asked for. -/
theorem isIndexed_of_openOn {p : StoreParams} {made : Database}
    (h : made.table? names.lexemes =
      if Store.isIndexed names db then db.table? names.lexemes
      else if p.hybridSearch then some (.lexemes (stockRows (fun _ => p.analyzer) items))
      else none) :
    Store.isIndexed names made = (p.hybridSearch || Store.isIndexed names db) := by
  unfold Store.isIndexed at h ⊢
  rw [h]
  cases hindex : (db.table? names.lexemes).isSome <;> cases hhybrid : p.hybridSearch <;>
    simp [hindex]

variable (hnames : names.Accepted)
include hnames

/-- **Opening a database that holds a stock succeeds**; the stock stays, an index that is there
stays too, and one that is wanted and missing is made from the stock. -/
theorem openOn_of_holds (h : Holds names db items) {p : StoreParams}
    (hp : TableNames.ofName p.tableName = .ok names) :
    ∃ made, Store.openOn p db =
        (.ok ⟨names, { p with hybridSearch := p.hybridSearch || Store.isIndexed names db }⟩, made) ∧
      Stocked names made items ∧
      made.table? names.lexemes =
        if Store.isIndexed names db then db.table? names.lexemes
        else if p.hybridSearch then some (.lexemes (stockRows (fun _ => p.analyzer) items))
        else none := by
  rcases h with h | ⟨h, rfl⟩
  · exact openOn_of_stocked hnames h hp
  · have htable : (db.put names.data (.data [])).table? names.lexemes = db.table? names.lexemes :=
      Database.table?_put_of_ne _ _ (TableNames.lexemes_ne_data hnames)
    have hindexed : Store.isIndexed names (db.put names.data (.data [])) =
        Store.isIndexed names db := by
      rw [Store.isIndexed, Store.isIndexed, htable]
    rw [openOn_of_vacant hnames h hp, ← hindexed, ← htable]
    exact openOn_of_stocked hnames (h.putData hnames) hp

/-- An opening gives a store that the database serves. -/
theorem Serves.opened (h : Holds names db items) {p : StoreParams} (hp : p.IsFor names)
    {store : Store} (hstore : (Store.openOn p db).1 = .ok store) :
    Serves names store (Store.openOn p db).2 ∧ store.params.analyzer = p.analyzer := by
  cases hname : TableNames.ofName p.tableName with
  | error e =>
      rw [openOn_of_refused hname] at hstore
      cases hstore
  | ok others =>
      obtain rfl := hp others hname
      obtain ⟨made, hopen, hstocked, hindex⟩ := openOn_of_holds hnames h hname
      rw [hopen] at hstore ⊢
      obtain rfl := Except.ok.inj hstore
      refine ⟨⟨rfl, by simp [hstocked.data], ?_⟩, rfl⟩
      rw [isIndexed_of_openOn hindex]
      exact id

/-- An opening takes nothing from another store. -/
theorem Serves.openOn {other : Store} (hserves : Serves names other db) (h : Holds names db items)
    {p : StoreParams} (hp : p.IsFor names) : Serves names other (Store.openOn p db).2 := by
  cases hname : TableNames.ofName p.tableName with
  | error e =>
      rw [openOn_of_refused hname]
      exact hserves
  | ok others =>
      obtain rfl := hp others hname
      obtain ⟨made, hopen, hstocked, hindex⟩ := openOn_of_holds hnames h hname
      rw [hopen]
      refine ⟨hserves.named, by simp [hstocked.data], ?_⟩
      intro hybrid
      rw [isIndexed_of_openOn hindex, hserves.index hybrid, Bool.or_true]

/-- What a write that succeeds leaves: the changed stock, and the index that was kept if the store
is hybrid. -/
theorem write_ok_cases {store : Store} (hserves : Serves names store db) (h : Holds names db items)
    {w : Write} {c : Connection} (hdone : store.write w (some db) = .ok c) :
    ∃ made, c = some made ∧ w.Fits store.params.embedDim ∧ Stocked names made (w.applyTo items) ∧
      (store.hybrid = true → ∃ rows, db.table? names.lexemes = some (.lexemes rows) ∧
        made.table? names.lexemes =
          some (.lexemes (w.reindex store.params.analyzer items rows))) ∧
      (store.hybrid = false → made.table? names.lexemes = db.table? names.lexemes) := by
  have hstocked := h.stocked hserves.data
  have hfits : w.Fits store.params.embedDim := by
    by_contra hnot
    obtain ⟨e, herror⟩ := Store.write_of_not_fits hnot (some db)
    rw [herror] at hdone
    cases hdone
  cases hhybrid : store.hybrid with
  | false =>
      have hnone : store.hybrid = true → db.table? names.lexemes = some (.lexemes []) := by
        simp [hhybrid]
      obtain ⟨made, hwrite, hmade, hindex⟩ := Store.write_of_stocked hnames hserves.named hstocked
        hfits hnone
      rw [hwrite] at hdone
      refine ⟨made, (Except.ok.inj hdone).symm, hfits, hmade, by simp, ?_⟩
      intro _
      simpa [hhybrid] using hindex
  | true =>
      obtain ⟨rows, htable⟩ := hserves.exists_index h hhybrid
      obtain ⟨made, hwrite, hmade, hindex⟩ := Store.write_of_stocked hnames hserves.named hstocked
        hfits (fun _ => htable)
      rw [hwrite] at hdone
      refine ⟨made, (Except.ok.inj hdone).symm, hfits, hmade, ?_, by simp⟩
      intro _
      exact ⟨rows, htable, by simpa [hhybrid] using hindex⟩

/-- A write takes nothing from any store. -/
theorem Serves.write {store other : Store} (hother : Serves names other db)
    (hserves : Serves names store db) (h : Holds names db items) {w : Write} {made : Database}
    (hdone : store.write w (some db) = .ok (some made)) : Serves names other made := by
  obtain ⟨next, heq, -, hstocked, hkept, hsame⟩ := write_ok_cases hnames hserves h hdone
  obtain rfl := Option.some.inj heq
  refine ⟨hother.named, by simp [hstocked.data], ?_⟩
  intro hybrid
  have hindexed := hother.index hybrid
  unfold Store.isIndexed at hindexed ⊢
  cases hhybrid : store.hybrid with
  | false =>
      rw [hsame hhybrid]
      exact hindexed
  | true =>
      obtain ⟨rows, -, hindex⟩ := hkept hhybrid
      rw [hindex]
      rfl

end Served

/-- A hybrid store of texts without embeddings that goes through the given analyzer. -/
def Store.ofAnalyzer (a : Analyzer) : Store :=
  ⟨⟨"data_t", "data_t_lexemes"⟩,
    { StoreParams.inMemory "t" with embedDim := 0, hybridSearch := true, analyzer := a }⟩

end HybridRetrieval
