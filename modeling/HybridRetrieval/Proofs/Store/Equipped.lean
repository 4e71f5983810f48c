import HybridRetrieval.Proofs.Store.Namespaces
/-!
# The tables that a store works on

A table stays what it is: opening, writing and even editing cells make no data table of a lexeme
table and no lexeme table of a data table (`KeepsKinds`), and an index stands only beside a table of
its kind (`WellShaped`).  So a store that has been opened finds its tables from then on
(`Equipped`), whatever is in them.

Over such a database a write of the right lengths succeeds, and what it leaves is said table by
table (`Store.Leaves`, `Store.write_of_equipped`); no other write does (`Store.leaves_of_write`).
-/

namespace HybridRetrieval

/-- What is a table of one kind before is a table of that kind afterwards. -/
def KeepsKinds (db made : Database) : Prop :=
  ∀ name table, db.table? name = some table →
    ∃ next, made.table? name = some next ∧ next.isData = table.isData

namespace KeepsKinds

variable {db mid made : Database} {name : String}

theorem refl (db : Database) : KeepsKinds db db := fun _ table h => ⟨table, h, rfl⟩

theorem trans (h : KeepsKinds db mid) (h' : KeepsKinds mid made) : KeepsKinds db made := by
  intro name table htable
  obtain ⟨next, hnext, hkind⟩ := h name table htable
  obtain ⟨last, hlast, hkind'⟩ := h' name next hnext
  exact ⟨last, hlast, hkind'.trans hkind⟩

/-- A data table stays one. -/
theorem data (h : KeepsKinds db made) {rows : List DataRow}
    (hrows : db.table? name = some (.data rows)) :
    ∃ next, made.table? name = some (.data next) := by
  obtain ⟨next, hnext, hkind⟩ := h name _ hrows
  cases next with
  | data rows => exact ⟨rows, hnext⟩
  | lexemes rows => cases hkind

/-- A lexeme table stays one. -/
theorem lexemes (h : KeepsKinds db made) {rows : List LexemeRow}
    (hrows : db.table? name = some (.lexemes rows)) :
    ∃ next, made.table? name = some (.lexemes next) := by
  obtain ⟨next, hnext, hkind⟩ := h name _ hrows
  cases next with
  | data rows => cases hkind
  | lexemes rows => exact ⟨rows, hnext⟩

/-- Putting a table where there is none, or one of its kind. -/
theorem put {table : Table} (h : ∀ old, db.table? name = some old → table.isData = old.isData) :
    KeepsKinds db (db.put name table) := by
  intro other old hold
  rw [Database.table?_put]
  by_cases heq : other = name
  · exact ⟨table, if_pos heq, h old (heq ▸ hold)⟩
  · exact ⟨old, (if_neg heq).trans hold, rfl⟩

end KeepsKinds

/-- Every index has a table of its kind. -/
structure WellShaped (db : Database) : Prop where
  documents : ∀ names : TableNames, names.documentIndex ∈ db.indexes →
    ∃ rows, db.table? names.data = some (.data rows)
  lexemes : ∀ names : TableNames, names.lexemeIndex ∈ db.indexes →
    ∃ rows, db.table? names.lexemes = some (.lexemes rows)

/-- The database has the tables that the store works on. -/
structure Equipped (store : Store) (db : Database) : Prop where
  accepted : store.names.Accepted
  data : ∃ rows, db.table? store.names.data = some (.data rows)
  index : store.hybrid = true → ∃ rows, db.table? store.names.lexemes = some (.lexemes rows)

/-- A database without tables is well shaped. -/
theorem wellShaped_empty : WellShaped .empty where
  documents names h := by cases h
  lexemes names h := by cases h

/-- A database whose tables keep their kinds stays well shaped. -/
theorem WellShaped.of_kinds {db made : Database} (h : WellShaped db) (hkinds : KeepsKinds db made)
    (hindexes : made.indexes = db.indexes) : WellShaped made where
  documents names hmem := by
    rw [hindexes] at hmem
    obtain ⟨rows, hrows⟩ := h.documents names hmem
    exact hkinds.data hrows
  lexemes names hmem := by
    rw [hindexes] at hmem
    obtain ⟨rows, hrows⟩ := h.lexemes names hmem
    exact hkinds.lexemes hrows

/-- A store keeps its tables as long as they keep their kinds. -/
theorem Equipped.of_kinds {store : Store} {db made : Database} (h : Equipped store db)
    (hkinds : KeepsKinds db made) : Equipped store made where
  accepted := h.accepted
  data := by
    obtain ⟨rows, hrows⟩ := h.data
    exact hkinds.data hrows
  index hhybrid := by
    obtain ⟨rows, hrows⟩ := h.index hhybrid
    exact hkinds.lexemes hrows

/-! ## Opening -/

/-- **One part of the schema.** -/
theorem WellShaped.part {db made : Database} (h : WellShaped db) {names : TableNames}
    {part : SchemaPart} (hmade : part.Made names db made) : WellShaped made := by
  have hkinds : KeepsKinds db made := fun _ table htable => ⟨table, hmade.table? htable, rfl⟩
  cases hmade with
  | present | dataTable | lexemeTable => exact h.of_kinds hkinds rfl
  | documentIndex _ htable =>
      constructor
      · intro others hmem
        rcases List.mem_append.mp hmem with hold | hnew
        · exact h.documents others hold
        · rw [TableNames.data_eq_of_documentIndex (List.mem_singleton.mp hnew)]
          exact ⟨_, htable⟩
      · intro others hmem
        rcases List.mem_append.mp hmem with hold | hnew
        · exact h.lexemes others hold
        · exact absurd (List.mem_singleton.mp hnew).symm (names.documentIndex_ne_lexemeIndex others)
  | lexemeIndex _ htable =>
      constructor
      · intro others hmem
        rcases List.mem_append.mp hmem with hold | hnew
        · exact h.documents others hold
        · exact absurd (List.mem_singleton.mp hnew) (others.documentIndex_ne_lexemeIndex names)
      · intro others hmem
        rcases List.mem_append.mp hmem with hold | hnew
        · exact h.lexemes others hold
        · rw [TableNames.lexemes_eq_of_lexemeIndex (List.mem_singleton.mp hnew)]
          exact ⟨_, htable⟩

/-- An opening changes no table that is there. -/
theorem table?_openOn {db : Database} {name : String} {table : Table}
    (h : db.table? name = some table) (p : StoreParams) :
    (Store.openOn p db).2.table? name = some table := by
  cases hname : TableNames.ofName p.tableName with
  | error e => rwa [openOn_of_refused hname]
  | ok names => exact table?_of_openOn hname h

/-- The data tables after an opening: those that were there, and an empty one. -/
theorem data_of_openOn {db : Database} (p : StoreParams) {name : String} {rows : List DataRow}
    (h : (Store.openOn p db).2.table? name = some (.data rows)) :
    rows = [] ∨ db.table? name = some (.data rows) := by
  cases hname : TableNames.ofName p.tableName with
  | error e =>
      rw [openOn_of_refused hname] at h
      exact Or.inr h
  | ok names =>
      revert h
      refine openOn_keeps hname db (P := fun made => made.table? name = some (.data rows) →
        rows = [] ∨ db.table? name = some (.data rows)) ?_ ?_ Or.inr
      · intro mid made part hmade hmid hmadeRows
        cases hmade with
        | present | documentIndex | lexemeIndex => exact hmid hmadeRows
        | dataTable =>
            rw [Database.table?_put] at hmadeRows
            split at hmadeRows
            · exact Or.inl (Table.data.inj (Option.some.inj hmadeRows)).symm
            · exact hmid hmadeRows
        | lexemeTable =>
            rw [Database.table?_put] at hmadeRows
            split at hmadeRows
            · cases hmadeRows
            · exact hmid hmadeRows
      · intro _ made lexemes hmid hmadeRows
        rw [Database.table?_put] at hmadeRows
        split at hmadeRows
        · cases hmadeRows
        · exact hmid hmadeRows

/-- The rows of a data table; there are none without the table. -/
def Database.rowsOf (db : Database) (table : String) : List DataRow :=
  (db.dataRows table).toOption.getD []

theorem Database.rowsOf_eq {db : Database} {table : String} {rows : List DataRow}
    (h : db.table? table = some (.data rows)) : db.rowsOf table = rows := by
  simp [rowsOf, Database.dataRows_eq_ok h, Except.toOption]

theorem Database.rowsOf_eq_nil {db : Database} {table : String}
    (h : ∀ rows, db.table? table ≠ some (.data rows)) : db.rowsOf table = [] := by
  unfold rowsOf dataRows
  split
  · rename_i rows hrows
    exact absurd hrows (h rows)
  · rfl

/-- The rows of a table depend on the table alone. -/
theorem Database.rowsOf_congr {db made : Database} {table : String}
    (h : made.table? table = db.table? table) : made.rowsOf table = db.rowsOf table := by
  rw [rowsOf, rowsOf, dataRows, dataRows, h]

/-- An opening adds no rows and takes none away. -/
theorem rowsOf_openOn (p : StoreParams) (db : Database) (table : String) :
    (Store.openOn p db).2.rowsOf table = db.rowsOf table := by
  by_cases hbefore : ∃ rows, db.table? table = some (.data rows)
  · obtain ⟨rows, hrows⟩ := hbefore
    rw [Database.rowsOf_eq hrows, Database.rowsOf_eq (table?_openOn hrows p)]
  · have hnone : ∀ rows, db.table? table ≠ some (.data rows) := not_exists.mp hbefore
    rw [Database.rowsOf_eq_nil hnone]
    by_cases hafter : ∃ rows, (Store.openOn p db).2.table? table = some (.data rows)
    · obtain ⟨rows, hrows⟩ := hafter
      rcases data_of_openOn p hrows with rfl | hold
      · exact Database.rowsOf_eq hrows
      · exact absurd hold (hnone rows)
    · exact Database.rowsOf_eq_nil (not_exists.mp hafter)

/-- **An opening** leaves a database well shaped, and one that succeeds gives a store that finds its
tables. -/
theorem WellShaped.openOn {db : Database} (h : WellShaped db) (p : StoreParams) :
    WellShaped (Store.openOn p db).2 ∧ KeepsKinds db (Store.openOn p db).2 ∧
      ∀ store, (Store.openOn p db).1 = .ok store → Equipped store (Store.openOn p db).2 := by
  have hkinds : KeepsKinds db (Store.openOn p db).2 := fun _ table htable =>
    ⟨table, table?_openOn htable p, rfl⟩
  cases hname : TableNames.ofName p.tableName with
  | error e =>
      rw [openOn_of_refused hname]
      exact ⟨h, .refl db, fun store hstore => by cases hstore⟩
  | ok names =>
      have hnames : names.Accepted := ⟨_, hname⟩
      -- a table that is filled was not there before, so it is no data table
      obtain ⟨hmade, -⟩ := openOn_keeps hname db
        (P := fun made => WellShaped made ∧
          (Store.isIndexed names db = false →
            ∀ rows, made.table? names.lexemes ≠ some (.data rows)))
        (fun hpart ⟨hmid, hlexemes⟩ => ⟨hmid.part hpart, fun habsent =>
          hpart.lexemes_ne_data hnames (hlexemes habsent)⟩)
        (fun habsent _ rows ⟨hmid, hlexemes⟩ =>
          ⟨hmid.of_kinds (.put fun old hold => by
            cases old with
            | data others => exact absurd hold (hlexemes habsent others)
            | lexemes others => rfl) rfl, by simp⟩)
        ⟨h, by simp +contextual [Store.isIndexed]⟩
      refine ⟨hmade, hkinds, ?_⟩
      intro store hstore
      obtain ⟨rfl, hpresent⟩ := isPresent_of_openOn hname db hstore
      refine ⟨hnames, hmade.documents _ ?_, fun hhybrid => hmade.lexemes _ ?_⟩
      · exact (documentIndex_mem_of_openOn hname db hstore).2
      · exact List.contains_iff_mem.mp (hpresent .lexemeIndex (by simp [schemaParts, hhybrid]))

/-! ## Writing -/

/-- What a write that keeps the index makes of lexeme rows, beside the rows of the data table. -/
def Write.lexemesAfter (a : Analyzer) (rows : List DataRow) (lexemes : List LexemeRow) :
    Write → List LexemeRow
  | add items => items.foldl (fun lexemes item => Store.replaceLexemes a item.node lexemes) lexemes
  | delete docId => lexemes.filter fun row =>
      !(rows.filter (Store.isOfDocument docId)).any fun r => r.nodeId == .text row.nodeId

namespace Store

/-- What a write leaves: other rows in the data table, other lexemes in the index of a hybrid store,
and all else as it was. -/
structure Leaves (s : Store) (w : Write) (rows : List DataRow) (db made : Database) : Prop where
  data : made.table? s.names.data = some (.data (w.rowsAfter rows))
  index : s.hybrid = true → ∀ lexemes, db.table? s.names.lexemes = some (.lexemes lexemes) →
    made.table? s.names.lexemes = some (.lexemes (w.lexemesAfter s.params.analyzer rows lexemes))
  others : ∀ name, name ≠ s.names.data → (s.hybrid = true → name ≠ s.names.lexemes) →
    made.table? name = db.table? name
  indexes : made.indexes = db.indexes

variable {s : Store} {db made : Database} {rows : List DataRow} {w : Write}

/-- A write that succeeds leaves a database. -/
theorem exists_of_write {c : Connection} (h : s.write w (some db) = .ok c) :
    ∃ made, c = some made := by
  cases w with
  | add items =>
      obtain ⟨made, -, hmade, -⟩ := write_add_ok h
      exact ⟨made, hmade⟩
  | delete docId =>
      obtain ⟨_, -, h⟩ := bind_eq_ok_iff.mp h
      obtain ⟨_, -, h⟩ := bind_eq_ok_iff.mp h
      obtain ⟨_, -, h⟩ := bind_eq_ok_iff.mp h
      exact ⟨_, (Except.ok.inj h).symm⟩

/-- Changing the lexemes of a store that finds its tables. -/
theorem changeLexemes_of_equipped (h : Equipped s db) (f : List LexemeRow → List LexemeRow) :
    ∃ made, s.changeLexemes f db = .ok made ∧
      (∀ name, (s.hybrid = true → name ≠ s.names.lexemes) → made.table? name = db.table? name) ∧
      (s.hybrid = true → ∀ lexemes, db.table? s.names.lexemes = some (.lexemes lexemes) →
        made.table? s.names.lexemes = some (.lexemes (f lexemes))) ∧
      made.indexes = db.indexes := by
  cases hhybrid : s.hybrid with
  | false => exact ⟨db, by simp [changeLexemes, hhybrid], fun _ _ => rfl, by simp, rfl⟩
  | true =>
      obtain ⟨lexemes, hlexemes⟩ := h.index hhybrid
      refine ⟨db.put s.names.lexemes (.lexemes (f lexemes)), ?_, ?_, ?_, rfl⟩
      · simp [changeLexemes, hhybrid, Database.lexemeRows_eq_ok hlexemes, bind, Except.bind, pure,
          Except.pure]
      · intro name hname
        exact Database.table?_put_of_ne _ _ (hname rfl)
      · intro _ others hothers
        rw [hlexemes] at hothers
        obtain rfl := Table.lexemes.inj (Option.some.inj hothers)
        exact Database.table?_put_self _ _ _

/-- **A write of the right lengths succeeds** over the tables of the store. -/
theorem write_of_equipped (h : Equipped s db) (hrows : db.table? s.names.data = some (.data rows))
    (hfits : w.Fits s.params.embedDim) :
    ∃ made, s.write w (some db) = .ok (some made) ∧ s.Leaves w rows db made := by
  have hne := TableNames.lexemes_ne_data h.accepted
  have hput : ∀ db : Database, (∃ old, db.table? s.names.data = some (.data old)) → ∀ next,
      KeepsKinds db (db.put s.names.data (.data next)) := by
    rintro db ⟨old, hold⟩ next
    refine .put fun other hother => ?_
    rw [hold] at hother
    rw [← Option.some.inj hother]
    rfl
  cases w with
  | add items =>
      have hcheck : s.checkItems items = .ok () := by
        rcases s.checkItems_eq items with ⟨-, hok⟩ | ⟨item, hmem, hbad, -⟩
        · exact hok
        · exact absurd (hfits item hmem) hbad
      obtain ⟨made, hchange, hsame, hindex, hindexes⟩ := changeLexemes_of_equipped
        (h.of_kinds (hput db ⟨rows, hrows⟩ ((Write.add items).rowsAfter rows)))
        (fun lexemes => items.foldl
          (fun lexemes item => replaceLexemes s.params.analyzer item.node lexemes) lexemes)
      refine ⟨made, ?_, ?_, ?_, ?_, hindexes⟩
      · rw [Write.rowsAfter] at hchange
        simp [write, add, hcheck, Connection.database, writeItems, Database.dataRows_eq_ok hrows,
          hchange, bind, Except.bind, pure, Except.pure]
      · rw [hsame _ fun _ => hne.symm, Database.table?_put_self]
      · intro hhybrid lexemes hlexemes
        refine hindex hhybrid lexemes ?_
        rw [Database.table?_put_of_ne _ _ hne, hlexemes]
      · intro name hdata hlexemes
        rw [hsame name hlexemes, Database.table?_put_of_ne _ _ hdata]
  | delete docId =>
      obtain ⟨mid, hchange, hsame, hindex, hindexes⟩ := changeLexemes_of_equipped h
        (fun lexemes => lexemes.filter fun row =>
          !(rows.filter (isOfDocument docId)).any fun r => r.nodeId == .text row.nodeId)
      refine ⟨mid.put s.names.data (.data ((Write.delete docId).rowsAfter rows)), ?_,
        Database.table?_put_self _ _ _, ?_, ?_, hindexes⟩
      · simp only [write, delete, Connection.database, Database.dataRows_eq_ok hrows, hchange, bind,
          Except.bind, pure, Except.pure, Write.rowsAfter]
      · intro hhybrid lexemes hlexemes
        rw [Database.table?_put_of_ne _ _ hne, hindex hhybrid lexemes hlexemes]
        rfl
      · intro name hdata hlexemes
        rw [Database.table?_put_of_ne _ _ hdata, hsame name hlexemes]

/-- **A write that succeeds** has the right lengths and leaves what it should. -/
theorem leaves_of_write (h : Equipped s db) (hrows : db.table? s.names.data = some (.data rows))
    {c : Connection} (hdone : s.write w (some db) = .ok c) :
    w.Fits s.params.embedDim ∧ ∃ made, c = some made ∧ s.Leaves w rows db made := by
  have hfits : w.Fits s.params.embedDim := by
    by_contra hnot
    obtain ⟨e, herror⟩ := write_of_not_fits hnot (some db)
    rw [herror] at hdone
    cases hdone
  obtain ⟨made, hwrite, hleaves⟩ := write_of_equipped h hrows hfits
  rw [hwrite] at hdone
  exact ⟨hfits, made, (Except.ok.inj hdone).symm, hleaves⟩

/-- A write keeps the kinds of all tables. -/
theorem Leaves.keepsKinds (h : s.Leaves w rows db made) (hequipped : Equipped s db)
    (hrows : db.table? s.names.data = some (.data rows)) : KeepsKinds db made := by
  intro name table htable
  by_cases hdata : name = s.names.data
  · subst hdata
    rw [hrows] at htable
    obtain rfl := Option.some.inj htable
    exact ⟨_, h.data, rfl⟩
  · by_cases hindex : s.hybrid = true ∧ name = s.names.lexemes
    · obtain ⟨hhybrid, rfl⟩ := hindex
      obtain ⟨lexemes, hlexemes⟩ := hequipped.index hhybrid
      rw [hlexemes] at htable
      obtain rfl := Option.some.inj htable
      exact ⟨_, h.index hhybrid lexemes hlexemes, rfl⟩
    · refine ⟨table, ?_, rfl⟩
      rw [h.others name hdata fun hhybrid heq => hindex ⟨hhybrid, heq⟩]
      exact htable

/-- A write changes the rows of its own data table and of no other. -/
theorem Leaves.rowsOf (h : s.Leaves w rows db made) (hequipped : Equipped s db)
    (hrows : db.table? s.names.data = some (.data rows)) (table : String) :
    made.rowsOf table =
      if s.names.data = table then w.rowsAfter (db.rowsOf table) else db.rowsOf table := by
  split
  · rename_i hself
    subst hself
    rw [Database.rowsOf_eq h.data, Database.rowsOf_eq hrows]
  · rename_i hother
    by_cases hindex : s.hybrid = true ∧ table = s.names.lexemes
    · obtain ⟨hhybrid, rfl⟩ := hindex
      obtain ⟨lexemes, hlexemes⟩ := hequipped.index hhybrid
      rw [Database.rowsOf_eq_nil (by simp [h.index hhybrid lexemes hlexemes]),
        Database.rowsOf_eq_nil (by simp [hlexemes])]
    · exact Database.rowsOf_congr (h.others table (Ne.symm hother) fun hhybrid heq =>
        hindex ⟨hhybrid, heq⟩)

end Store

end HybridRetrieval
