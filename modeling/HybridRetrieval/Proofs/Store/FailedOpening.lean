import HybridRetrieval.Proofs.Store.Opening
import HybridRetrieval.Proofs.Store.Stocked
import Mathlib.Data.List.Infix
/-!
# What a failed opening leaves behind

The parts of the schema are made one after the other, each for good, and the index is filled after
that.  Whatever is made makes the database larger (`SchemaPart.Made.size_cases`), and nothing makes
it smaller again.  So a failed opening leaves the database as it was exactly if nothing had been
made before it failed: the first part that was missing is the one that could not be made
(`openOn_error_unchanged_iff`).
-/

namespace HybridRetrieval

namespace Database

/-- The number of tables and indexes. -/
def size (db : Database) : Nat := db.tables.length + db.indexes.length

/-- Putting a table under a new name makes the database larger by one. -/
theorem size_put_of_absent {db : Database} {name : String} (h : db.table? name = none)
    (table : Table) : (db.put name table).size = db.size + 1 := by
  simp only [size, put, h, Option.isSome_none, Bool.false_eq_true, if_false, List.length_append,
    List.length_cons, List.length_nil]
  omega

/-- Adding an index makes it larger by one, too. -/
theorem size_addIndex (db : Database) (name : String) :
    size { db with indexes := db.indexes ++ [name] } = db.size + 1 := by
  simp only [size, List.length_append, List.length_cons, List.length_nil]
  omega

end Database

namespace SchemaPart

/-- **A part is made once.**  If it was there nothing happens, else the database grows. -/
theorem Made.size_cases {names : TableNames} {db made : Database} {part : SchemaPart}
    (h : Made names db part made) :
    part.isPresent names db = true ∧ made = db ∨
      part.isPresent names db = false ∧ made.size = db.size + 1 := by
  cases h with
  | present present => exact Or.inl ⟨present, rfl⟩
  | dataTable absent =>
      exact Or.inr ⟨by simp [isPresent, absent], Database.size_put_of_absent absent _⟩
  | lexemeTable absent =>
      exact Or.inr ⟨by simp [isPresent, absent], Database.size_put_of_absent absent _⟩
  | documentIndex absent => exact Or.inr ⟨by simp [isPresent, absent], db.size_addIndex _⟩
  | lexemeIndex absent => exact Or.inr ⟨by simp [isPresent, absent], db.size_addIndex _⟩

/-- The table that a part is, or belongs to. -/
def table : SchemaPart → SchemaPart
  | dataTable | documentIndex => dataTable
  | lexemeTable | lexemeIndex => lexemeTable

/-- A part that is there with its table is not made again. -/
theorem make_of_present {names : TableNames} {db : Database} {part : SchemaPart}
    (h : part.isPresent names db = true) (htable : part.table.isPresent names db = true) :
    part.make names db = .ok db := by
  cases part with
  | dataTable => exact Database.createTable_of_present _ h
  | lexemeTable => exact Database.createTable_of_present _ h
  | documentIndex =>
      obtain ⟨t, ht⟩ := Option.isSome_iff_exists.mp htable
      rw [make, Database.createIndex, ht]
      exact if_pos h
  | lexemeIndex =>
      obtain ⟨t, ht⟩ := Option.isSome_iff_exists.mp htable
      rw [make, Database.createIndex, ht]
      exact if_pos h

/-- In the schema a table comes before its index. -/
theorem table_mem_of_prefix {hybrid : Bool} {first : List SchemaPart}
    (h : first <+: schemaParts hybrid) {part : SchemaPart} (hpart : part ∈ first) :
    part.table ∈ first := by
  have hall : ∀ hybrid, ∀ first ∈ (schemaParts hybrid).inits, ∀ part ∈ first,
      part.table ∈ first := by decide
  exact hall hybrid first (List.mem_inits _ _ |>.mpr h) part hpart

/-- Making parts never makes a database smaller. -/
theorem size_le_makeAll (names : TableNames) (parts : List SchemaPart) (db : Database) :
    db.size ≤ (makeAll names parts db).2.size := by
  refine makeAll_keeps (P := fun made => db.size ≤ made.size) ?_ parts (Nat.le_refl _)
  intro mid made part hmade hle
  rcases hmade.size_cases with ⟨-, rfl⟩ | ⟨-, hsize⟩
  · exact hle
  · omega

/-- If making parts leaves the database alone, then every part up to the first that cannot be made
was there. -/
theorem makeAll_unchanged {names : TableNames} {parts : List SchemaPart} {db : Database}
    (h : (makeAll names parts db).2 = db) :
    (∀ part ∈ parts, part.isPresent names db = true) ∧ (makeAll names parts db).1 = .ok () ∨
      ∃ first part last e, parts = first ++ part :: last ∧
        (∀ other ∈ first, other.isPresent names db = true) ∧ part.make names db = .error e ∧
        (makeAll names parts db).1 = .error e := by
  induction parts with
  | nil => exact Or.inl ⟨by simp, rfl⟩
  | cons part rest ih =>
      unfold makeAll at h ⊢
      cases hmake : part.make names db with
      | error e => exact Or.inr ⟨[], part, rest, e, rfl, by simp, hmake, rfl⟩
      | ok made =>
          rw [hmake] at h
          dsimp only at h ⊢
          rcases (made_of_make hmake).size_cases with ⟨hpresent, rfl⟩ | ⟨-, hsize⟩
          · rcases ih h with ⟨hall, hok⟩ | ⟨first, failing, last, e, rfl, hfirst, herror, hresult⟩
            · exact Or.inl ⟨by simpa [hpresent] using hall, hok⟩
            · exact Or.inr ⟨part :: first, failing, last, e, rfl, by simpa [hpresent] using hfirst,
                herror, hresult⟩
          · have hgrown := size_le_makeAll names rest made
            rw [h] at hgrown
            omega

/-- Parts that are there are passed over; the first that cannot be made stops the rest. -/
theorem makeAll_of_present {names : TableNames} {first : List SchemaPart} {part : SchemaPart}
    (last : List SchemaPart) {db : Database} {e : Error}
    (hfirst : ∀ other ∈ first, other.make names db = .ok db)
    (herror : part.make names db = .error e) :
    makeAll names (first ++ part :: last) db = (.error e, db) := by
  induction first with
  | nil => rw [List.nil_append, makeAll, herror]
  | cons other rest ih =>
      rw [List.cons_append, makeAll, hfirst other List.mem_cons_self]
      exact ih fun q hq => hfirst q (List.mem_cons_of_mem _ hq)

/-- Parts that are all there are passed over. -/
theorem makeAll_of_noop {names : TableNames} {parts : List SchemaPart} {db : Database}
    (h : ∀ part ∈ parts, part.make names db = .ok db) : makeAll names parts db = (.ok (), db) := by
  induction parts with
  | nil => rfl
  | cons part rest ih =>
      rw [makeAll, h part List.mem_cons_self]
      exact ih fun other hother => h other (List.mem_cons_of_mem _ hother)

end SchemaPart

/-- An opening under an accepted name fails at a part of the schema, or else at filling an index
that was missing before. -/
theorem openOn_error_cases {p : StoreParams} {db : Database} {names : TableNames} {e : Error}
    (hname : TableNames.ofName p.tableName = .ok names) (h : (Store.openOn p db).1 = .error e) :
    Store.openOn p db = (.error e, (SchemaPart.makeAll names
        (schemaParts (p.hybridSearch || Store.isIndexed names db)) db).2) ∧
      (SchemaPart.makeAll names (schemaParts (p.hybridSearch || Store.isIndexed names db)) db).1 =
        .error e ∨
      ∃ made, SchemaPart.makeAll names
          (schemaParts (p.hybridSearch || Store.isIndexed names db)) db = (.ok (), made) ∧
        (p.hybridSearch || Store.isIndexed names db) = true ∧ Store.isIndexed names db = false ∧
        Store.openOn p db = (.error e, made) := by
  have hopening := opening_of_openOn hname db
  generalize Store.openOn p db = done at hopening h ⊢
  cases hopening with
  | stopped schema =>
      obtain rfl := Except.error.inj h
      rw [schema]
      exact Or.inl ⟨rfl, rfl⟩
  | opened | filled => cases h
  | unfilled schema hybrid absent =>
      obtain rfl := Except.error.inj h
      rw [hybrid, absent]
      exact Or.inr ⟨_, schema, rfl, rfl, rfl⟩

/-- A schema with an index that was missing cannot be made without a trace. -/
theorem ne_of_index_made {names : TableNames} {db made : Database}
    (hmake : SchemaPart.makeAll names (schemaParts true) db = (.ok (), made))
    (habsent : Store.isIndexed names db = false) : made ≠ db := by
  rintro rfl
  have hsame : (SchemaPart.makeAll names (schemaParts true) made).2 = made := by rw [hmake]
  have hunchanged := SchemaPart.makeAll_unchanged hsame
  rw [hmake] at hunchanged
  rcases hunchanged with ⟨hall, -⟩ | ⟨-, -, -, e, -, -, -, hresult⟩
  · have hpresent : Store.isIndexed names made = true := hall .lexemeTable (by simp [schemaParts])
    rw [habsent] at hpresent
    cases hpresent
  · cases hresult

/-- **When a failed opening leaves no trace.**  The database is as it was if and only if the name
was refused, or the first part of the schema that was missing could not be made. -/
theorem openOn_error_unchanged_iff {p : StoreParams} {db : Database} {e : Error}
    (h : (Store.openOn p db).1 = .error e) :
    (Store.openOn p db).2 = db ↔ TableNames.ofName p.tableName = .error e ∨
      ∃ names, TableNames.ofName p.tableName = .ok names ∧ ∃ first part last,
        schemaParts (p.hybridSearch || Store.isIndexed names db) = first ++ part :: last ∧
          (∀ other ∈ first, other.isPresent names db = true) ∧
          part.make names db = .error e := by
  cases hname : TableNames.ofName p.tableName with
  | error e' =>
      have hopen : Store.openOn p db = (.error e', db) := by rw [Store.openOn, hname]
      rw [hopen] at h ⊢
      obtain rfl := Except.error.inj h
      exact iff_of_true rfl (Or.inl rfl)
  | ok names =>
      simp only [reduceCtorEq, false_or, Except.ok.injEq, exists_eq_left']
      constructor
      · intro hsame
        rcases openOn_error_cases hname h with
          ⟨hopen, hmake⟩ | ⟨made, hmake, hhybrid, hindexed, hopen⟩
        · rw [hopen] at hsame
          rcases SchemaPart.makeAll_unchanged hsame with ⟨-, hok⟩ | hfailed
          · rw [hok] at hmake
            cases hmake
          · obtain ⟨first, part, last, e', hparts, hfirst, herror, hresult⟩ := hfailed
            rw [hresult] at hmake
            obtain rfl := Except.error.inj hmake
            exact ⟨first, part, last, hparts, hfirst, herror⟩
        · -- the index was missing, so it has been made by now
          rw [hopen] at hsame
          rw [hhybrid] at hmake
          exact absurd hsame (ne_of_index_made hmake hindexed)
      · rintro ⟨first, part, last, hparts, hfirst, herror⟩
        have hnoop : ∀ other ∈ first, other.make names db = .ok db := by
          intro other hother
          refine SchemaPart.make_of_present (hfirst other hother) (hfirst _ ?_)
          exact SchemaPart.table_mem_of_prefix ⟨_, hparts.symm⟩ hother
        have hall := SchemaPart.makeAll_of_present last hnoop herror
        rw [← hparts] at hall
        simp only [Store.openOn, hname, hall]

/-- Where the data table of another logical table has the name of the index, nothing is made: only
the index of that table by lexeme was missing, and it has no such column. -/
theorem openOn_unchanged_beside_data :
    let db : Database :=
      ⟨[("data_t", .data []), ("data_t_lexemes", .data [])], ["idx_data_t_ref_doc"]⟩
    Store.openOn (.inMemory "t") db = (.error .storage, db) := by
  intro db
  have herror : (Store.openOn (.inMemory "t") db).1 = .error .storage := by rfl
  have hsame := (openOn_error_unchanged_iff herror).mpr (Or.inr
    ⟨⟨"data_t", "data_t_lexemes"⟩, by rfl, [.dataTable, .lexemeTable, .documentIndex], .lexemeIndex,
      [], by rfl, by decide +kernel, by rfl⟩)
  exact Prod.ext herror hsame

/-- A row that somebody has put bytes into the text of. -/
def DataRow.damaged : DataRow := { DataRow.ofItem (.ofText "a" "fox") with text := .blob [0xff] }

/-- **A failed filling leaves an empty index behind.**  The damaged text makes the opening fail
after the index was created, and the next opening takes it for an index that is in use. -/
theorem openOn_leaves_empty_index :
    ∃ made, Store.openOn { StoreParams.inMemory "t" with hybridSearch := true }
        ⟨[("data_t", .data [.damaged])], ["idx_data_t_ref_doc"]⟩ = (.error .storage, made) ∧
      made ≠ ⟨[("data_t", .data [.damaged])], ["idx_data_t_ref_doc"]⟩ ∧
      made.lexemeRows "data_t_lexemes" = .ok [] ∧
      Store.openOn { StoreParams.inMemory "t" with hybridSearch := true } made =
        (.ok ⟨⟨"data_t", "data_t_lexemes"⟩,
          { StoreParams.inMemory "t" with hybridSearch := true }⟩, made) := by
  refine ⟨⟨[("data_t", .data [.damaged]), ("data_t_lexemes", .lexemes [])],
    ["idx_data_t_ref_doc", "idx_data_t_lexemes_lexeme"]⟩, by rfl, ?_, by rfl, by rfl⟩
  intro heq
  have hsize := congrArg Database.size heq
  exact absurd hsize (by decide)

end HybridRetrieval
