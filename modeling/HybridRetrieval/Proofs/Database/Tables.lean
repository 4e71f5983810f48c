import HybridRetrieval.Database.Schema
import HybridRetrieval.Proofs.Database.Entries
/-!
# Tables and indexes by name

What each operation of a database does to its tables and indexes, seen through their names:
`table?_put`, `createTable_of_absent` and `createIndex_of_fits`.  Nothing after this module opens
the list of tables.
-/

namespace HybridRetrieval

namespace Database

/-- Putting a table decides what its name means and leaves every other name alone. -/
theorem table?_put (db : Database) (name : String) (table : Table) (other : String) :
    (db.put name table).table? other = if other = name then some table else db.table? other :=
  Entries.lookup_put db.tables name table other

@[simp] theorem table?_put_self (db : Database) (name : String) (table : Table) :
    (db.put name table).table? name = some table := by
  simp [table?_put]

theorem table?_put_of_ne (db : Database) {name other : String} (table : Table)
    (h : other ≠ name) : (db.put name table).table? other = db.table? other := by
  simp [table?_put, h]

@[simp] theorem indexes_put (db : Database) (name : String) (table : Table) :
    (db.put name table).indexes = db.indexes := rfl

@[simp] theorem table?_empty (name : String) : Database.empty.table? name = none := rfl

@[simp] theorem indexes_empty : Database.empty.indexes = [] := rfl

theorem dataRows_eq_ok {db : Database} {name : String} {rows : List DataRow}
    (h : db.table? name = some (.data rows)) : db.dataRows name = .ok rows := by
  simp [dataRows, h]

theorem lexemeRows_eq_ok {db : Database} {name : String} {rows : List LexemeRow}
    (h : db.table? name = some (.lexemes rows)) : db.lexemeRows name = .ok rows := by
  simp [lexemeRows, h]

/-- Data rows can be read only from a data table. -/
theorem table?_of_dataRows {db : Database} {name : String} {rows : List DataRow}
    (h : db.dataRows name = .ok rows) : db.table? name = some (.data rows) := by
  unfold dataRows at h
  split at h
  · rename_i hfound
    rw [hfound, Except.ok.inj h]
  · cases h

/-- Lexeme rows can be read only from a lexeme table. -/
theorem table?_of_lexemeRows {db : Database} {name : String} {rows : List LexemeRow}
    (h : db.lexemeRows name = .ok rows) : db.table? name = some (.lexemes rows) := by
  unfold lexemeRows at h
  split at h
  · rename_i hfound
    rw [hfound, Except.ok.inj h]
  · cases h

/-- A table that is there is not created again. -/
theorem createTable_of_present {db : Database} {name : String} (table : Table)
    (h : (db.table? name).isSome) : db.createTable name table = .ok db := by
  simp [createTable, h]

/-- A table whose name is free is created. -/
theorem createTable_of_absent {db : Database} {name : String} (table : Table)
    (h : db.table? name = none) (hfree : name ∉ db.indexes) :
    db.createTable name table = .ok (db.put name table) := by
  simp [createTable, h, hfree]

/-- What creating a table leaves: the same database if the table was there, else the table beside
what there was. -/
theorem createTable_ok {db made : Database} {name : String} {table : Table}
    (h : db.createTable name table = .ok made) :
    (db.table? name).isSome = true ∧ made = db ∨
      db.table? name = none ∧ made = db.put name table := by
  unfold createTable at h
  split at h
  · rename_i hpresent
    exact Or.inl ⟨hpresent, (Except.ok.inj h).symm⟩
  · rename_i habsent
    split at h
    · cases h
    · exact Or.inr ⟨by simpa using habsent, (Except.ok.inj h).symm⟩

/-- What creating an index leaves: the same database if the index was there, else its name beside
the others, and then its table has the column. -/
theorem createIndex_ok {db made : Database} {name table : String} {hasColumn : Table → Bool}
    (h : db.createIndex name table hasColumn = .ok made) :
    name ∈ db.indexes ∧ made = db ∨ name ∉ db.indexes ∧
      made = { db with indexes := db.indexes ++ [name] } ∧
        ∃ t, db.table? table = some t ∧ hasColumn t = true := by
  unfold createIndex at h
  split at h
  · cases h
  · rename_i t ht
    split at h
    · rename_i hpresent
      exact Or.inl ⟨by simpa using hpresent, (Except.ok.inj h).symm⟩
    · rename_i habsent
      split at h
      · cases h
      · rename_i hfits
        rw [Bool.or_eq_true, not_or] at hfits
        exact Or.inr ⟨by simpa using habsent, (Except.ok.inj h).symm, t, ht,
          by simpa using hfits.2⟩

/-- What creating an index needs, and what it leaves: the same tables, and a name more at most. -/
theorem createIndex_of_fits {db : Database} {name table : String} (hasColumn : Table → Bool)
    {t : Table} (ht : db.table? table = some t) (hcolumn : hasColumn t = true)
    (hfree : db.table? name = none) :
    ∃ made, db.createIndex name table hasColumn = .ok made ∧ made.tables = db.tables ∧
      (∀ other, other ∈ made.indexes → other ∈ db.indexes ∨ other = name) := by
  unfold createIndex
  rw [ht]
  by_cases h : db.indexes.contains name
  · exact ⟨db, if_pos h, rfl, fun other hother => Or.inl hother⟩
  · refine ⟨{ db with indexes := db.indexes ++ [name] }, ?_, rfl, ?_⟩
    · simp only [if_neg h, hfree, hcolumn, Option.isSome_none, Bool.not_true, Bool.or_self,
        Bool.false_eq_true, if_false]
    · intro other hother
      simpa using hother

end Database

end HybridRetrieval
