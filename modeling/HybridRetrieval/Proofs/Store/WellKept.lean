import HybridRetrieval.Proofs.Store.Index
import HybridRetrieval.Proofs.Store.Opening
/-!
# Databases that only stores have opened and written

Stores may open any logical tables of a database, also ones whose names get in each other's way, and
some openings fail.  Whatever they do, every data table holds a stock, and the index of data rows by
document stands only beside a data table (`WellKept`); and what is a data table stays one
(`KeepsData`).  Both follow from what a single part of the schema does (`WellKept.part`) and what a
write does (`WellKept.write`).
-/

namespace HybridRetrieval

/-- The rows are those of items with distinct identifiers. -/
def IsStock (rows : List DataRow) : Prop :=
  ∃ items : List Item, rows = items.map DataRow.ofItem ∧ (items.map Item.id).Nodup

/-- Rows of a stock are those of items with distinct identifiers, whichever items these are. -/
theorem IsStock.nodup {items : List Item} (h : IsStock (items.map DataRow.ofItem)) :
    (items.map Item.id).Nodup := by
  obtain ⟨others, hsame, hdistinct⟩ := h
  rw [DataRow.map_id_eq_of_map_ofItem hsame]
  exact hdistinct

/-- Every data table holds a stock, and every index of data rows has a data table. -/
structure WellKept (db : Database) : Prop where
  stocks : ∀ name rows, db.table? name = some (.data rows) → IsStock rows
  indexes : ∀ names : TableNames, names.documentIndex ∈ db.indexes →
    ∃ rows, db.table? names.data = some (.data rows)

/-- What is a data table before is one afterwards. -/
def KeepsData (db made : Database) : Prop :=
  ∀ name rows, db.table? name = some (.data rows) → ∃ next, made.table? name = some (.data next)

theorem KeepsData.refl (db : Database) : KeepsData db db := fun _ rows h => ⟨rows, h⟩

theorem KeepsData.trans {db mid made : Database} (h : KeepsData db mid) (h' : KeepsData mid made) :
    KeepsData db made := by
  intro name rows hrows
  obtain ⟨next, hnext⟩ := h name rows hrows
  exact h' name next hnext

/-- A database without tables is well kept. -/
theorem wellKept_empty : WellKept .empty where
  stocks name rows h := by cases h
  indexes names h := by cases h

namespace WellKept

variable {db made : Database}

/-- Putting a table that holds a stock, or no data at all, in the place of one of its kind. -/
theorem put (h : WellKept db) {name : String} {table : Table}
    (hkind : ∀ rows, db.table? name = some (.data rows) → ∃ next, table = .data next)
    (hstock : ∀ rows, table = .data rows → IsStock rows) :
    WellKept (db.put name table) ∧ KeepsData db (db.put name table) := by
  have hkept : KeepsData db (db.put name table) := by
    intro other rows hrows
    rw [Database.table?_put]
    by_cases heq : other = name
    · obtain ⟨next, rfl⟩ := hkind rows (heq ▸ hrows)
      exact ⟨next, if_pos heq⟩
    · exact ⟨rows, (if_neg heq).trans hrows⟩
  refine ⟨⟨?_, ?_⟩, hkept⟩
  · intro other rows hrows
    rw [Database.table?_put] at hrows
    split at hrows
    · exact hstock rows (Option.some.inj hrows)
    · exact h.stocks other rows hrows
  · intro names hmem
    obtain ⟨rows, hrows⟩ := h.indexes names hmem
    exact hkept _ rows hrows

/-- Putting a table of lexemes where no data table is. -/
theorem putLexemes (h : WellKept db) {name : String}
    (hname : ∀ rows, db.table? name ≠ some (.data rows)) (lexemes : List LexemeRow) :
    WellKept (db.put name (.lexemes lexemes)) ∧ KeepsData db (db.put name (.lexemes lexemes)) :=
  h.put (fun rows hrows => absurd hrows (hname rows)) fun rows heq => by cases heq

/-- A new index that, if it is one by document, belongs to a data table. -/
theorem addIndex (h : WellKept db) {name : String} (hname : ∀ names : TableNames,
      names.documentIndex = name → ∃ rows, db.table? names.data = some (.data rows)) :
    WellKept { db with indexes := db.indexes ++ [name] } where
  stocks := h.stocks
  indexes := by
    intro names hmem
    rcases List.mem_append.mp hmem with hold | hnew
    · exact h.indexes names hold
    · exact hname names (List.mem_singleton.mp hnew)

/-- **One part of the schema.** -/
theorem part (h : WellKept db) {names : TableNames} {part : SchemaPart}
    (hmade : part.Made names db made) : WellKept made ∧ KeepsData db made := by
  cases hmade with
  | present => exact ⟨h, .refl db⟩
  | dataTable absent =>
      refine h.put (fun rows hrows => ?_) (fun rows heq => ?_)
      · rw [absent] at hrows
        cases hrows
      · obtain rfl := Table.data.inj heq
        exact ⟨[], rfl, List.nodup_nil⟩
  | lexemeTable absent => exact h.putLexemes (by simp [absent]) []
  | documentIndex absent table =>
      refine ⟨h.addIndex fun others heq => ?_, .refl db⟩
      rw [TableNames.data_eq_of_documentIndex heq]
      exact ⟨_, table⟩
  | lexemeIndex =>
      refine ⟨h.addIndex fun others heq => ?_, .refl db⟩
      exact absurd heq (others.documentIndex_ne_lexemeIndex names)

end WellKept

/-- No part makes a data table in the place of the lexemes. -/
theorem SchemaPart.Made.lexemes_ne_data {names : TableNames} (hnames : names.Accepted)
    {db made : Database} {part : SchemaPart} (hmade : part.Made names db made)
    (h : ∀ rows, db.table? names.lexemes ≠ some (.data rows)) :
    ∀ rows, made.table? names.lexemes ≠ some (.data rows) := by
  cases hmade with
  | present | documentIndex | lexemeIndex => exact h
  | dataTable => rwa [Database.table?_put_of_ne _ _ (TableNames.lexemes_ne_data hnames)]
  | lexemeTable => simp

/-! ## Opening -/

/-- **An opening**, also one that fails, leaves a database well kept; one that succeeds finds or
makes a data table. -/
theorem WellKept.openOn {db : Database} (h : WellKept db) (p : StoreParams) :
    WellKept (Store.openOn p db).2 ∧ KeepsData db (Store.openOn p db).2 ∧
      ∀ store, (Store.openOn p db).1 = .ok store →
        ∃ rows, (Store.openOn p db).2.table? store.names.data = some (.data rows) := by
  cases hname : TableNames.ofName p.tableName with
  | error e =>
      rw [openOn_of_refused hname]
      exact ⟨h, .refl db, fun store hstore => by cases hstore⟩
  | ok names =>
      have hnames : names.Accepted := ⟨_, hname⟩
      -- a table that is filled was not there before, so it is no data table
      obtain ⟨hmade, hkept, -⟩ := openOn_keeps hname db
        (P := fun made => WellKept made ∧ KeepsData db made ∧
          (Store.isIndexed names db = false →
            ∀ rows, made.table? names.lexemes ≠ some (.data rows)))
        (fun hpart ⟨hmid, hkept, hlexemes⟩ => ⟨(hmid.part hpart).1, hkept.trans (hmid.part hpart).2,
          fun habsent => hpart.lexemes_ne_data hnames (hlexemes habsent)⟩)
        (fun habsent _ rows ⟨hmade, hkept, hlexemes⟩ =>
          have hput := hmade.putLexemes (hlexemes habsent) rows
          ⟨hput.1, hkept.trans hput.2, by simp⟩)
        ⟨h, .refl db, by simp +contextual [Store.isIndexed]⟩
      refine ⟨hmade, hkept, ?_⟩
      intro store hstore
      obtain ⟨rfl, hmem⟩ := documentIndex_mem_of_openOn hname db hstore
      exact hmade.indexes _ hmem

/-! ## Writing -/

/-- What changing the index leaves: the same database, or other rows in a lexeme table. -/
theorem changeLexemes_ok {s : Store} {f : List LexemeRow → List LexemeRow} {db made : Database}
    (h : s.changeLexemes f db = .ok made) :
    made = db ∨ ∃ rows, db.table? s.names.lexemes = some (.lexemes rows) ∧
      made = db.put s.names.lexemes (.lexemes (f rows)) := by
  unfold Store.changeLexemes at h
  split at h
  · obtain ⟨rows, hrows, hput⟩ := bind_eq_ok_iff.mp h
    exact Or.inr ⟨rows, Database.table?_of_lexemeRows hrows, (Except.ok.inj hput).symm⟩
  · exact Or.inl (Except.ok.inj h).symm

/-- Changing an index leaves a database well kept, and every data table as it is. -/
theorem WellKept.changeLexemes {s : Store} {f : List LexemeRow → List LexemeRow}
    {db made : Database} (h : WellKept db) (hmade : s.changeLexemes f db = .ok made) :
    WellKept made ∧ ∀ name rows, db.table? name = some (.data rows) →
      made.table? name = some (.data rows) := by
  rcases changeLexemes_ok hmade with rfl | ⟨lexemes, hlexemes, rfl⟩
  · exact ⟨h, fun _ _ hrows => hrows⟩
  · refine ⟨(h.putLexemes (by simp [hlexemes]) _).1, ?_⟩
    intro name rows hrows
    have hne : name ≠ s.names.lexemes := by
      rintro rfl
      rw [hlexemes] at hrows
      cases hrows
    rwa [Database.table?_put_of_ne _ _ hne]

/-- What a write does to the rows of the data table. -/
def Write.rowsAfter (rows : List DataRow) : Write → List DataRow
  | add items => items.foldl (fun rows item => DataRow.upsert (.ofItem item) rows) rows
  | delete docId => rows.filter fun row => !Store.isOfDocument docId row

/-- On the rows of items a write acts as on the items. -/
theorem Write.rowsAfter_ofItem (w : Write) (items : List Item) :
    w.rowsAfter (items.map DataRow.ofItem) = (w.applyTo items).map DataRow.ofItem := by
  cases w with
  | add new => exact DataRow.foldl_upsert_ofItem new items
  | delete docId => exact DataRow.filter_ofItem docId items

/-- A write leaves a stock. -/
theorem IsStock.write {rows : List DataRow} (h : IsStock rows) (w : Write) :
    IsStock (w.rowsAfter rows) := by
  obtain ⟨items, rfl, hdistinct⟩ := h
  exact ⟨w.applyTo items, w.rowsAfter_ofItem items, w.nodup_applyTo hdistinct⟩

/-- Changing the rows of a data table as a write does. -/
theorem WellKept.putRows {db : Database} (h : WellKept db) {name : String} {rows : List DataRow}
    (hdata : db.table? name = some (.data rows)) (w : Write) :
    WellKept (db.put name (.data (w.rowsAfter rows))) ∧
      KeepsData db (db.put name (.data (w.rowsAfter rows))) :=
  h.put (fun _ _ => ⟨_, rfl⟩) fun _ heq => Table.data.inj heq ▸ (h.stocks _ rows hdata).write w

/-- What an addition that succeeds writes and gives back. -/
theorem Store.write_add_ok {s : Store} {items : List Item} {db : Database} {c : Connection}
    (h : s.write (.add items) (some db) = .ok c) :
    ∃ made, s.writeItems items db = .ok made ∧ c = some made ∧
      s.add items (some db) = .ok (items.map Item.id, some made) := by
  obtain ⟨added, hadd, hdone⟩ := bind_eq_ok_iff.mp h
  obtain rfl := Except.ok.inj hdone
  obtain ⟨-, -, hsteps⟩ := bind_eq_ok_iff.mp hadd
  obtain ⟨_, hopen, hsteps⟩ := bind_eq_ok_iff.mp hsteps
  obtain rfl := Except.ok.inj hopen
  obtain ⟨made, hwrite, hsteps⟩ := bind_eq_ok_iff.mp hsteps
  obtain rfl := Except.ok.inj hsteps
  exact ⟨made, hwrite, rfl, hadd⟩

/-- **What a write needs and leaves**: the data table with its rows changed, and nothing else but
the index touched. -/
theorem WellKept.write {db : Database} (h : WellKept db) {store : Store} {w : Write}
    {c : Connection} (hdone : store.write w (some db) = .ok c) :
    ∃ made rows, c = some made ∧ WellKept made ∧ KeepsData db made ∧
      db.table? store.names.data = some (.data rows) ∧
      made.table? store.names.data = some (.data (w.rowsAfter rows)) := by
  cases w with
  | add items =>
      obtain ⟨made, hwrite, rfl, -⟩ := Store.write_add_ok hdone
      obtain ⟨rows, hrows, hchange⟩ := bind_eq_ok_iff.mp hwrite
      have hdata := Database.table?_of_dataRows hrows
      obtain ⟨hput, hkept⟩ := h.putRows hdata (.add items)
      obtain ⟨hmade, hsame⟩ := hput.changeLexemes hchange
      refine ⟨made, rows, rfl, hmade, ?_, hdata, ?_⟩
      · exact hkept.trans fun name next hnext => ⟨next, hsame name next hnext⟩
      · exact hsame _ _ (Database.table?_put_self _ _ _)
  | delete docId =>
      obtain ⟨_, hopen, hdone⟩ := bind_eq_ok_iff.mp hdone
      obtain rfl := Except.ok.inj hopen
      obtain ⟨rows, hrows, hdone⟩ := bind_eq_ok_iff.mp hdone
      obtain ⟨next, hchange, hdone⟩ := bind_eq_ok_iff.mp hdone
      obtain rfl := Except.ok.inj hdone
      have hdata := Database.table?_of_dataRows hrows
      obtain ⟨hnext, hsame⟩ := h.changeLexemes hchange
      obtain ⟨hput, hkept⟩ := hnext.putRows (hsame _ _ hdata) (.delete docId)
      refine ⟨_, rows, rfl, hput, ?_, hdata, Database.table?_put_self _ _ _⟩
      intro name old hold
      exact hkept name old (hsame name old hold)

end HybridRetrieval
