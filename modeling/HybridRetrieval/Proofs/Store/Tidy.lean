import HybridRetrieval.Proofs.Store.Equipped
/-!
# Tables and indexes have different names

Whatever stores are opened on a database, its tables are named with one first letter and its indexes
with another (`Tidy`), so an index never takes the name of a table or the other way round
(`Tidy.apart`).  Logical tables can still get in each other's way, as one's data table may stand in
the place of another's index.  That an opening succeeds excludes this, too: what it finds is then a
stock, or nothing of the logical table is there (`exists_holds`).
-/

namespace HybridRetrieval

/-- The names of tables start with the letter `d`, those of indexes with `i`. -/
structure Tidy (db : Database) : Prop where
  tables : ∀ name table, db.table? name = some table → name.toList.head? = some 'd'
  indexes : ∀ name ∈ db.indexes, name.toList.head? = some 'i'

/-- A database without tables is tidy. -/
theorem tidy_empty : Tidy .empty where
  tables name table h := by cases h
  indexes name h := by cases h

namespace Tidy

variable {db made : Database} {names : TableNames}

/-- Putting a table of a logical table. -/
theorem put (h : Tidy db) {name : String} (hname : name.toList.head? = some 'd') (table : Table) :
    Tidy (db.put name table) where
  tables other found hfound := by
    rw [Database.table?_put] at hfound
    split at hfound
    · rename_i heq
      rw [heq]
      exact hname
    · exact h.tables other found hfound
  indexes := h.indexes

/-- Adding an index of a logical table. -/
theorem addIndex (h : Tidy db) {name : String} (hname : name.toList.head? = some 'i') :
    Tidy { db with indexes := db.indexes ++ [name] } where
  tables := h.tables
  indexes other hother := by
    rcases List.mem_append.mp hother with hold | hnew
    · exact h.indexes other hold
    · rw [List.mem_singleton.mp hnew]
      exact hname

/-- **One part of the schema.** -/
theorem part (h : Tidy db) (hnames : names.Accepted) {part : SchemaPart}
    (hmade : part.Made names db made) : Tidy made := by
  cases hmade with
  | present => exact h
  | dataTable => exact h.put hnames.head?.1 _
  | lexemeTable => exact h.put hnames.head?.2 _
  | documentIndex => exact h.addIndex names.head?_documentIndex
  | lexemeIndex => exact h.addIndex names.head?_lexemeIndex

/-- **An opening** leaves a database tidy. -/
theorem openOn (h : Tidy db) (p : StoreParams) : Tidy (Store.openOn p db).2 := by
  cases hname : TableNames.ofName p.tableName with
  | error e => rwa [openOn_of_refused hname]
  | ok names =>
      have hnames : names.Accepted := ⟨_, hname⟩
      exact openOn_keeps hname db (fun hmade hmid => hmid.part hnames hmade)
        (fun _ _ rows hmade => hmade.put hnames.head?.2 (.lexemes rows)) h

/-- **A write** brings no new names. -/
theorem write (h : Tidy db) {s : Store} (hequipped : Equipped s db) {w : Write}
    {rows : List DataRow} (hleaves : s.Leaves w rows db made) : Tidy made where
  tables name table htable := by
    by_cases hdata : name = s.names.data
    · rw [hdata]
      exact hequipped.accepted.head?.1
    · by_cases hindex : name = s.names.lexemes
      · rw [hindex]
        exact hequipped.accepted.head?.2
      · rw [hleaves.others name hdata fun _ => hindex] at htable
        exact h.tables name table htable
  indexes := hleaves.indexes ▸ h.indexes

/-- **In a tidy database every logical table has its names for itself.** -/
theorem apart (h : Tidy db) (hnames : names.Accepted) : Apart names db := by
  have hnoTable : ∀ name, name.toList.head? = some 'i' → db.table? name = none := by
    intro name hname
    cases htable : db.table? name with
    | none => rfl
    | some table =>
        rw [h.tables name table htable] at hname
        cases hname
  have hnoIndex : ∀ name, name.toList.head? = some 'd' → name ∉ db.indexes := by
    intro name hname hmem
    rw [h.indexes name hmem] at hname
    cases hname
  exact ⟨hnoIndex _ hnames.head?.1, hnoIndex _ hnames.head?.2,
    hnoTable _ names.head?_documentIndex, hnoTable _ names.head?_lexemeIndex⟩

/-- **What an opening finds**, if it succeeds where no index is: a stock, or nothing at all. -/
theorem exists_holds (h : Tidy db) (hkept : WellKept db) {p : StoreParams}
    (hname : TableNames.ofName p.tableName = .ok names) {store : Store}
    (hopen : (Store.openOn p db).1 = .ok store) (habsent : Store.isIndexed names db = false) :
    ∃ items, Holds names db items := by
  have hlexemes : db.table? names.lexemes = none := by
    simpa [Store.isIndexed] using habsent
  have hnames : names.Accepted := ⟨_, hname⟩
  have hapart := h.apart hnames
  cases htable : db.table? names.data with
  | none => exact ⟨[], Or.inr ⟨⟨hapart, htable, hlexemes⟩, rfl⟩⟩
  | some table =>
      cases table with
      | data rows =>
          obtain ⟨items, rfl, hdistinct⟩ := hkept.stocks _ rows htable
          exact ⟨items, Or.inl ⟨hapart, htable, hdistinct, by simp [hlexemes]⟩⟩
      | lexemes rows =>
          -- the opening would have left this table, and found a data table in its place
          obtain ⟨-, -, hdata⟩ := hkept.openOn p
          obtain ⟨next, hnext⟩ := hdata store hopen
          rw [(isPresent_of_openOn hname db hopen).1, table?_openOn htable p] at hnext
          cases hnext

end Tidy

end HybridRetrieval
