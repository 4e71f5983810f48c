import HybridRetrieval.Proofs.Store.Index
/-!
# Databases that only stores have written

`Stocked names db items` says that the data table of a logical table holds exactly the rows of the
given items, and that its lexeme table, if there is one, is an index.  `Vacant names db` says that
neither table is there yet.  A database in either state opens without an error and is stocked
afterwards (`openOn_of_stocked`, `openOn_of_vacant`), and a write through any store on the table
acts on the stock as on a list and on the index only if the store is hybrid (`write_of_stocked`).
-/

namespace HybridRetrieval

/-- No other table or index has taken a name of the logical table. -/
structure Apart (names : TableNames) (db : Database) : Prop where
  data : names.data ∉ db.indexes
  lexemes : names.lexemes ∉ db.indexes
  documentIndex : db.table? names.documentIndex = none
  lexemeIndex : db.table? names.lexemeIndex = none

/-- Nothing of the logical table is there. -/
structure Vacant (names : TableNames) (db : Database) : Prop where
  apart : Apart names db
  data : db.table? names.data = none
  lexemes : db.table? names.lexemes = none

/-- The data table holds the rows of the items, and the lexeme table is an index if it exists. -/
structure Stocked (names : TableNames) (db : Database) (items : List Item) : Prop where
  apart : Apart names db
  data : db.table? names.data = some (.data (items.map DataRow.ofItem))
  distinct : (items.map Item.id).Nodup
  index : ∀ table, db.table? names.lexemes = some table → ∃ rows, table = .lexemes rows

/-- A database without tables is vacant for every logical table. -/
theorem vacant_empty (names : TableNames) : Vacant names .empty :=
  ⟨⟨by simp, by simp, rfl, rfl⟩, rfl, rfl⟩

section Names

variable {names : TableNames} (hnames : names.Accepted) {db : Database}
include hnames

/-- Putting either table of the logical table leaves its names apart. -/
theorem Apart.put (h : Apart names db) {name : String} (hname : name = names.data ∨
    name = names.lexemes) (table : Table) : Apart names (db.put name table) := by
  have hdocument := TableNames.ne_documentIndex hnames
  have hlexeme := TableNames.ne_lexemeIndex hnames
  refine ⟨h.data, h.lexemes, ?_, ?_⟩
  · have hne : names.documentIndex ≠ name := by
      rcases hname with rfl | rfl
      exacts [hdocument.1, hdocument.2]
    rw [Database.table?_put_of_ne _ _ hne]
    exact h.documentIndex
  · have hne : names.lexemeIndex ≠ name := by
      rcases hname with rfl | rfl
      exacts [hlexeme.1, hlexeme.2]
    rw [Database.table?_put_of_ne _ _ hne]
    exact h.lexemeIndex

/-- Replacing the index leaves the stock as it is. -/
theorem Stocked.putIndex {items : List Item} (h : Stocked names db items)
    (rows : List LexemeRow) : Stocked names (db.put names.lexemes (.lexemes rows)) items where
  apart := h.apart.put hnames (Or.inr rfl) _
  data := by
    rw [Database.table?_put_of_ne _ _ (TableNames.lexemes_ne_data hnames).symm]
    exact h.data
  distinct := h.distinct
  index := by
    intro table htable
    rw [Database.table?_put_self] at htable
    exact ⟨rows, (Option.some.inj htable).symm⟩

/-- Replacing the data rows replaces the stock. -/
theorem Stocked.putData {items : List Item} (h : Stocked names db items) {next : List Item}
    (hnext : (next.map Item.id).Nodup) :
    Stocked names (db.put names.data (.data (next.map DataRow.ofItem))) next where
  apart := h.apart.put hnames (Or.inl rfl) _
  data := Database.table?_put_self _ _ _
  distinct := hnext
  index := by
    intro table htable
    rw [Database.table?_put_of_ne _ _ (TableNames.lexemes_ne_data hnames)] at htable
    exact h.index table htable

/-- Creating the data table of a vacant logical table gives it an empty stock. -/
theorem Vacant.putData (h : Vacant names db) :
    Stocked names (db.put names.data (.data [])) [] where
  apart := h.apart.put hnames (Or.inl rfl) _
  data := Database.table?_put_self _ _ _
  distinct := List.nodup_nil
  index := by
    intro table htable
    rw [Database.table?_put_of_ne _ _ (TableNames.lexemes_ne_data hnames), h.lexemes] at htable
    cases htable

end Names

/-- What two databases of one logical table share if only other names differ. -/
theorem Stocked.of_tables {names : TableNames} {db made : Database} {items : List Item}
    (h : Stocked names db items) (htables : made.tables = db.tables)
    (hindexes : ∀ name ∈ made.indexes, name ∈ db.indexes ∨ name ≠ names.data ∧
      name ≠ names.lexemes) : Stocked names made items := by
  have htable : ∀ name, made.table? name = db.table? name := by
    intro name
    rw [Database.table?, htables, Database.table?]
  refine ⟨⟨?_, ?_, ?_, ?_⟩, ?_, h.distinct, ?_⟩
  · intro hmem
    rcases hindexes _ hmem with hold | hne
    · exact h.apart.data hold
    · exact hne.1 rfl
  · intro hmem
    rcases hindexes _ hmem with hold | hne
    · exact h.apart.lexemes hold
    · exact hne.2 rfl
  · rw [htable]
    exact h.apart.documentIndex
  · rw [htable]
    exact h.apart.lexemeIndex
  · rw [htable]
    exact h.data
  · intro table hsome
    exact h.index table (by rwa [htable] at hsome)

/-! ## Opening -/

section Opening

variable {names : TableNames} (hnames : names.Accepted) {db : Database} {items : List Item}
include hnames

/-- The index of data rows is made, or there already. -/
theorem Stocked.make_documentIndex (h : Stocked names db items) :
    ∃ made, SchemaPart.make names db .documentIndex = .ok made ∧ Stocked names made items ∧
      made.table? names.lexemes = db.table? names.lexemes := by
  obtain ⟨made, hmake, htables, hindexes⟩ :=
    Database.createIndex_of_fits Table.isData h.data rfl h.apart.documentIndex
  refine ⟨made, hmake, h.of_tables htables ?_, ?_⟩
  · intro name hname
    rcases hindexes name hname with hold | rfl
    · exact Or.inl hold
    · exact Or.inr (TableNames.ne_documentIndex hnames)
  · rw [Database.table?, htables, Database.table?]

/-- The index of lexeme rows is made, or there already. -/
theorem Stocked.make_lexemeIndex (h : Stocked names db items) {rows : List LexemeRow}
    (hrows : db.table? names.lexemes = some (.lexemes rows)) :
    ∃ made, SchemaPart.make names db .lexemeIndex = .ok made ∧ Stocked names made items ∧
      made.table? names.lexemes = db.table? names.lexemes := by
  obtain ⟨made, hmake, htables, hindexes⟩ :=
    Database.createIndex_of_fits Table.isLexemes hrows rfl h.apart.lexemeIndex
  refine ⟨made, hmake, h.of_tables htables ?_, ?_⟩
  · intro name hname
    rcases hindexes name hname with hold | rfl
    · exact Or.inl hold
    · exact Or.inr (TableNames.ne_lexemeIndex hnames)
  · rw [Database.table?, htables, Database.table?]

/-- The lexeme table is created empty, or there already. -/
theorem Stocked.make_lexemeTable (h : Stocked names db items) :
    ∃ made rows, SchemaPart.make names db .lexemeTable = .ok made ∧ Stocked names made items ∧
      made.table? names.lexemes = some (.lexemes rows) ∧
      (Store.isIndexed names db = true → made = db) := by
  cases hindex : db.table? names.lexemes with
  | none =>
      refine ⟨_, [], Database.createTable_of_absent _ hindex h.apart.lexemes,
        h.putIndex hnames [], Database.table?_put_self _ _ _, ?_⟩
      intro hindexed
      simp [Store.isIndexed, hindex] at hindexed
  | some table =>
      obtain ⟨rows, rfl⟩ := h.index table hindex
      have hpresent : (db.table? names.lexemes).isSome := by rw [hindex]; rfl
      exact ⟨db, rows, Database.createTable_of_present _ hpresent, h, hindex, fun _ => rfl⟩

/-- On a stocked database everything that a store needs is made. -/
theorem Stocked.makeAll (h : Stocked names db items) (hybrid : Bool)
    (hsticky : Store.isIndexed names db = true → hybrid = true) :
    ∃ made, SchemaPart.makeAll names (schemaParts hybrid) db = (.ok (), made) ∧
      Stocked names made items ∧
      (Store.isIndexed names db = true → made.table? names.lexemes = db.table? names.lexemes) ∧
      (hybrid = false → made.table? names.lexemes = none) := by
  have hdata : SchemaPart.make names db .dataTable = .ok db :=
    Database.createTable_of_present _ (by rw [h.data]; rfl)
  cases hybrid with
  | false =>
      obtain ⟨made, hmake, hstocked, hlexemes⟩ := h.make_documentIndex hnames
      refine ⟨made, ?_, hstocked, fun _ => hlexemes, fun _ => ?_⟩
      · simp [schemaParts, SchemaPart.makeAll, hdata, hmake]
      · rw [hlexemes]
        have hnot : ¬ Store.isIndexed names db = true := fun hi => Bool.false_ne_true (hsticky hi)
        simpa [Store.isIndexed] using hnot
  | true =>
      obtain ⟨tabled, rows, htable, hstocked, hrows, hsame⟩ := h.make_lexemeTable hnames
      obtain ⟨listed, hlisted, hstocked, hlexemes⟩ := hstocked.make_documentIndex hnames
      obtain ⟨made, hmake, hstocked, hlexemes'⟩ :=
        hstocked.make_lexemeIndex hnames (hlexemes.trans hrows)
      refine ⟨made, ?_, hstocked, ?_, fun hfalse => by cases hfalse⟩
      · simp [schemaParts, SchemaPart.makeAll, hdata, htable, hlisted, hmake]
      · intro hindexed
        rw [hlexemes', hlexemes, hsame hindexed]

/-- **Opening a stocked database succeeds.**  The stock stays; an index that is there stays too, and
one that is wanted and missing is made from the stock. -/
theorem openOn_of_stocked (h : Stocked names db items) {p : StoreParams}
    (hp : TableNames.ofName p.tableName = .ok names) :
    ∃ made, Store.openOn p db =
        (.ok ⟨names, { p with hybridSearch := p.hybridSearch || Store.isIndexed names db }⟩, made) ∧
      Stocked names made items ∧
      made.table? names.lexemes =
        if Store.isIndexed names db then db.table? names.lexemes
        else if p.hybridSearch then some (.lexemes (stockRows (fun _ => p.analyzer) items))
        else none := by
  obtain ⟨made, hmake, hstocked, hkeep, hnone⟩ :=
    h.makeAll hnames (p.hybridSearch || Store.isIndexed names db) (by simp +contextual)
  cases hindexed : Store.isIndexed names db with
  | true =>
      rw [hindexed, Bool.or_true] at hmake
      refine ⟨made, ?_, hstocked, by simpa using hkeep hindexed⟩
      simp [Store.openOn, hp, hindexed, hmake]
  | false =>
      rw [hindexed, Bool.or_false] at hmake hnone
      cases hhybrid : p.hybridSearch with
      | false =>
          rw [hhybrid] at hmake
          refine ⟨made, ?_, hstocked, by simpa using hnone hhybrid⟩
          simp [Store.openOn, hp, hindexed, hhybrid, hmake]
      | true =>
          rw [hhybrid] at hmake
          have hfill : Store.fillIndex names p.analyzer made =
              .ok (made.put names.lexemes (.lexemes (stockRows (fun _ => p.analyzer) items))) := by
            simp [Store.fillIndex, Database.dataRows_eq_ok hstocked.data, lexemeRowsOfRows_ofItem,
              bind, Except.bind, pure, Except.pure]
          refine ⟨_, ?_, hstocked.putIndex hnames (stockRows (fun _ => p.analyzer) items), by simp⟩
          simp [Store.openOn, hp, hindexed, hhybrid, hmake, hfill]

/-- Opening a vacant database is opening it with an empty data table. -/
theorem openOn_of_vacant (h : Vacant names db) {p : StoreParams}
    (hp : TableNames.ofName p.tableName = .ok names) :
    Store.openOn p db = Store.openOn p (db.put names.data (.data [])) := by
  have hindexed : Store.isIndexed names (db.put names.data (.data [])) =
      Store.isIndexed names db := by
    rw [Store.isIndexed, Database.table?_put_of_ne _ _ (TableNames.lexemes_ne_data hnames)]
    rfl
  have hcreate : SchemaPart.make names db .dataTable = .ok (db.put names.data (.data [])) :=
    Database.createTable_of_absent _ h.data h.apart.data
  have hpresent : SchemaPart.make names (db.put names.data (.data [])) .dataTable =
      .ok (db.put names.data (.data [])) :=
    Database.createTable_of_present _ (by simp)
  have hall : ∀ hybrid, SchemaPart.makeAll names (schemaParts hybrid) db =
      SchemaPart.makeAll names (schemaParts hybrid) (db.put names.data (.data [])) := by
    intro hybrid
    cases hybrid <;> simp [schemaParts, SchemaPart.makeAll, hcreate, hpresent]
  simp only [Store.openOn, hp, hindexed, hall]

end Opening

/-! ## Writing -/

/-- The embeddings of a write have the given length. -/
def Write.Fits (embedDim : Nat) : Write → Prop
  | add items => ∀ item ∈ items, item.embedding.length = embedDim
  | delete _ => True

namespace Store

/-- Items are checked one after the other, up to the first of another length. -/
theorem checkItems_find? (s : Store) (items : List Item) :
    s.checkItems items =
      match items.find? fun item => item.embedding.length ≠ s.params.embedDim with
      | some bad => .error (.dimensionMismatch s.params.embedDim bad.embedding.length)
      | none => .ok () := by
  induction items with
  | nil => rfl
  | cons item rest ih =>
      by_cases h : item.embedding.length = s.params.embedDim
      · rw [List.find?_cons_of_neg (by simpa using h), ← ih]
        simp [checkItems, List.forM_cons, checkEmbedding, h, bind, Except.bind]
      · rw [List.find?_cons_of_pos (by simpa using h)]
        simp [checkItems, List.forM_cons, checkEmbedding, h, bind, Except.bind]

/-- All items pass the check or one of them fails it. -/
theorem checkItems_eq (s : Store) (items : List Item) :
    ((∀ item ∈ items, item.embedding.length = s.params.embedDim) ∧ s.checkItems items = .ok ()) ∨
      ∃ item ∈ items, item.embedding.length ≠ s.params.embedDim ∧
        s.checkItems items =
          .error (.dimensionMismatch s.params.embedDim item.embedding.length) := by
  rw [checkItems_find?]
  cases hfind : items.find? fun item => item.embedding.length ≠ s.params.embedDim with
  | none => exact Or.inl ⟨by simpa using hfind, rfl⟩
  | some bad =>
      exact Or.inr ⟨bad, List.mem_of_find?_eq_some hfind, by simpa using List.find?_some hfind, rfl⟩

/-- A write with an embedding of another length fails. -/
theorem write_of_not_fits {s : Store} {w : Write} (h : ¬ w.Fits s.params.embedDim)
    (c : Connection) : ∃ e, s.write w c = .error e := by
  cases w with
  | delete docId => exact absurd trivial h
  | add items =>
      rcases s.checkItems_eq items with ⟨hall, -⟩ | ⟨item, -, -, herror⟩
      · exact absurd hall h
      · exact ⟨_, by rw [write, add, herror]; rfl⟩

/-- A closed connection cannot be written to. -/
theorem write_closed (s : Store) (w : Write) : ∃ e, s.write w none = .error e := by
  cases w with
  | delete docId => exact ⟨.closed, rfl⟩
  | add items =>
      rcases s.checkItems_eq items with ⟨-, hok⟩ | ⟨item, -, -, herror⟩
      · exact ⟨.closed, by rw [write, add, hok]; rfl⟩
      · exact ⟨_, by rw [write, add, herror]; rfl⟩

section Writing

variable {names : TableNames} (hnames : names.Accepted) {db : Database} {items : List Item}
  {s : Store} (hs : s.names = names) {rows : List LexemeRow}
include hnames hs

/-- Changing the index of a stocked database changes nothing else, and nothing at all if the store
is not hybrid. -/
theorem changeLexemes_of_stocked (h : Stocked names db items)
    (hrows : s.hybrid = true → db.table? names.lexemes = some (.lexemes rows))
    (f : List LexemeRow → List LexemeRow) :
    ∃ made, s.changeLexemes f db = .ok made ∧ Stocked names made items ∧
      made.table? names.lexemes =
        if s.hybrid then some (.lexemes (f rows)) else db.table? names.lexemes := by
  subst hs
  cases hhybrid : s.hybrid with
  | false => exact ⟨db, by simp [changeLexemes, hhybrid], h, by simp⟩
  | true =>
      refine ⟨db.put s.names.lexemes (.lexemes (f rows)), ?_, h.putIndex hnames _, by simp⟩
      simp [changeLexemes, hhybrid, Database.lexemeRows_eq_ok (hrows hhybrid), bind, Except.bind,
        pure, Except.pure]

/-- **Writing to a stocked database.**  The stock changes as a list, and so does the index if the
store is hybrid; else the index stays as it is. -/
theorem write_of_stocked (h : Stocked names db items) {w : Write}
    (hfits : w.Fits s.params.embedDim)
    (hrows : s.hybrid = true → db.table? names.lexemes = some (.lexemes rows)) :
    ∃ made, s.write w (some db) = .ok (some made) ∧ Stocked names made (w.applyTo items) ∧
      made.table? names.lexemes =
        if s.hybrid then some (.lexemes (w.reindex s.params.analyzer items rows))
        else db.table? names.lexemes := by
  subst hs
  have hne := TableNames.lexemes_ne_data hnames
  cases w with
  | add new =>
      have hcheck : s.checkItems new = .ok () := by
        rcases s.checkItems_eq new with ⟨-, hok⟩ | ⟨item, hmem, hbad, -⟩
        · exact hok
        · exact absurd (hfits item hmem) hbad
      have hput := h.putData hnames (Write.nodup_applyTo (.add new) h.distinct)
      have hsame : ∀ table, (db.put s.names.data table).table? s.names.lexemes =
          db.table? s.names.lexemes := fun table => Database.table?_put_of_ne _ _ hne
      have hindex : ∀ table, s.hybrid = true → (db.put s.names.data table).table? s.names.lexemes =
          some (.lexemes rows) := fun table hybrid => (hsame table).trans (hrows hybrid)
      obtain ⟨made, hchange, hstocked, hlexemes⟩ := changeLexemes_of_stocked hnames rfl hput
        (hindex _)
        (fun lexemes => new.foldl
          (fun lexemes item => replaceLexemes s.params.analyzer item.node lexemes) lexemes)
      rw [hsame] at hlexemes
      refine ⟨made, ?_, hstocked, hlexemes⟩
      rw [Write.applyTo] at hchange
      simp [write, add, hcheck, Connection.database, writeItems, Database.dataRows_eq_ok h.data,
        DataRow.foldl_upsert_ofItem, hchange, bind, Except.bind, pure, Except.pure]
  | delete docId =>
      have hremoved : ∀ row : LexemeRow,
          (((items.map DataRow.ofItem).filter (isOfDocument docId)).any
            fun r => r.nodeId == .text row.nodeId) =
          items.any fun item => item.isOfDocument docId && item.id == row.nodeId := by
        intro row
        rw [List.any_filter, List.any_map]
        congr 1
        funext item
        rw [Function.comp_apply, DataRow.isOfDocument_ofItem]
        congr 1
        rw [Bool.eq_iff_iff]
        simp [DataRow.ofItem, Item.id]
      obtain ⟨made, hchange, hstocked, hlexemes⟩ := changeLexemes_of_stocked hnames rfl h hrows
        (fun lexemes => lexemes.filter fun row =>
          !items.any fun item => item.isOfDocument docId && item.id == row.nodeId)
      refine ⟨_, ?_, hstocked.putData hnames (Write.nodup_applyTo (.delete docId) h.distinct), ?_⟩
      · simp [write, delete, Connection.database, Database.dataRows_eq_ok h.data, hremoved,
          hchange, DataRow.filter_ofItem, Write.applyTo, bind, Except.bind, pure, Except.pure]
      · rw [Database.table?_put_of_ne _ _ hne, hlexemes]
        rfl

end Writing

end Store

end HybridRetrieval
