import HybridRetrieval.Proofs.Database.Tables
import HybridRetrieval.Proofs.Steps
import HybridRetrieval.Store.Basic
/-!
# How an opening goes

`SchemaPart.Made` lists what making one part of the schema can do to a database, and `Opening` how
an opening can end.  All later facts about openings go through these two: what every part of the
schema keeps, and the filling of a new index, is kept by an opening, also by one that fails
(`openOn_keeps`).
-/

namespace HybridRetrieval

namespace SchemaPart

/-- What making a part does: nothing if it is there, else a table comes that was not there, or an
index of a table that has its column. -/
inductive Made (names : TableNames) (db : Database) : SchemaPart → Database → Prop
  | present {part : SchemaPart} (present : part.isPresent names db = true) : Made names db part db
  | dataTable (absent : db.table? names.data = none) :
      Made names db .dataTable (db.put names.data (.data []))
  | lexemeTable (absent : db.table? names.lexemes = none) :
      Made names db .lexemeTable (db.put names.lexemes (.lexemes []))
  | documentIndex {rows : List DataRow} (absent : names.documentIndex ∉ db.indexes)
      (table : db.table? names.data = some (.data rows)) :
      Made names db .documentIndex { db with indexes := db.indexes ++ [names.documentIndex] }
  | lexemeIndex {rows : List LexemeRow} (absent : names.lexemeIndex ∉ db.indexes)
      (table : db.table? names.lexemes = some (.lexemes rows)) :
      Made names db .lexemeIndex { db with indexes := db.indexes ++ [names.lexemeIndex] }

variable {names : TableNames} {db made : Database} {part : SchemaPart}

theorem made_of_make (h : part.make names db = .ok made) : Made names db part made := by
  cases part with
  | dataTable =>
      rcases Database.createTable_ok h with ⟨present, rfl⟩ | ⟨absent, rfl⟩
      exacts [.present present, .dataTable absent]
  | lexemeTable =>
      rcases Database.createTable_ok h with ⟨present, rfl⟩ | ⟨absent, rfl⟩
      exacts [.present present, .lexemeTable absent]
  | documentIndex =>
      rcases Database.createIndex_ok h with ⟨present, rfl⟩ | ⟨absent, rfl, table, htable, hcolumn⟩
      · exact .present (List.contains_iff_mem.mpr present)
      · cases table with
        | data rows => exact .documentIndex absent htable
        | lexemes rows => cases hcolumn
  | lexemeIndex =>
      rcases Database.createIndex_ok h with ⟨present, rfl⟩ | ⟨absent, rfl, table, htable, hcolumn⟩
      · exact .present (List.contains_iff_mem.mpr present)
      · cases table with
        | data rows => cases hcolumn
        | lexemes rows => exact .lexemeIndex absent htable

/-- What each part keeps is kept by all of them, up to the first that cannot be made. -/
theorem makeAll_keeps {P : Database → Prop}
    (hstep : ∀ {db made : Database} {part : SchemaPart}, Made names db part made → P db → P made)
    (parts : List SchemaPart) (h : P db) : P (makeAll names parts db).2 := by
  induction parts generalizing db with
  | nil => exact h
  | cons part rest ih =>
      unfold makeAll
      cases hmake : part.make names db with
      | error e => exact h
      | ok made => exact ih (hstep (made_of_make hmake) h)

/-- If all parts can be made, the first can, and the others after it. -/
theorem makeAll_cons_ok {rest : List SchemaPart}
    (h : makeAll names (part :: rest) db = (.ok (), made)) :
    ∃ next, Made names db part next ∧ makeAll names rest next = (.ok (), made) := by
  unfold makeAll at h
  cases hmake : part.make names db with
  | error e =>
      rw [hmake] at h
      cases (Prod.mk.inj h).1
  | ok next =>
      rw [hmake] at h
      exact ⟨next, made_of_make hmake, h⟩

/-- No part replaces a table. -/
theorem Made.table? (hmade : part.Made names db made) {name : String} {table : Table}
    (h : db.table? name = some table) : made.table? name = some table := by
  have hput : ∀ {other : String}, db.table? other = none → ∀ new,
      (db.put other new).table? name = some table := by
    intro other habsent new
    rw [Database.table?_put_of_ne, h]
    rintro rfl
    rw [h] at habsent
    cases habsent
  cases hmade with
  | present | documentIndex | lexemeIndex => exact h
  | dataTable absent => exact hput absent _
  | lexemeTable absent => exact hput absent _

/-- No part takes an index away. -/
theorem Made.indexes_subset (hmade : part.Made names db made) : db.indexes ⊆ made.indexes := by
  cases hmade with
  | present | dataTable | lexemeTable => exact List.Subset.refl _
  | documentIndex | lexemeIndex => exact List.subset_append_left _ _

/-- What is made is there afterwards, and what was there stays. -/
theorem isPresent_of_made (hmade : part.Made names db made) {other : SchemaPart}
    (h : other.isPresent names db = true ∨ other = part) : other.isPresent names made = true := by
  rcases h with hold | rfl
  · have htable : ∀ name, (db.table? name).isSome = true → (made.table? name).isSome = true := by
      intro name hname
      obtain ⟨table, htable⟩ := Option.isSome_iff_exists.mp hname
      rw [hmade.table? htable]
      rfl
    have hindex : ∀ name, db.indexes.contains name = true → made.indexes.contains name = true :=
      fun name hname =>
        List.contains_iff_mem.mpr (hmade.indexes_subset (List.contains_iff_mem.mp hname))
    cases other with
    | dataTable | lexemeTable => exact htable _ hold
    | documentIndex | lexemeIndex => exact hindex _ hold
  · cases hmade with
    | present present => exact present
    | dataTable | lexemeTable => simp [isPresent]
    | documentIndex | lexemeIndex => simp [isPresent]

/-- A schema that could be made has all its parts. -/
theorem isPresent_of_makeAll {parts : List SchemaPart} (h : makeAll names parts db = (.ok (), made))
    {other : SchemaPart} (hpart : other.isPresent names db = true ∨ other ∈ parts) :
    other.isPresent names made = true := by
  induction parts generalizing db with
  | nil =>
      obtain ⟨-, rfl⟩ := Prod.mk.inj h
      exact hpart.resolve_right List.not_mem_nil
  | cons part rest ih =>
      obtain ⟨next, hmade, hrest⟩ := makeAll_cons_ok h
      refine ih hrest ?_
      rcases hpart with hold | hmem
      · exact Or.inl (isPresent_of_made hmade (Or.inl hold))
      · rcases List.mem_cons.mp hmem with rfl | hlater
        · exact Or.inl (isPresent_of_made hmade (Or.inr rfl))
        · exact Or.inr hlater

end SchemaPart

/-- How an opening under an accepted name goes. -/
inductive Opening (names : TableNames) (p : StoreParams) (db : Database) :
    Except Error Store × Database → Prop
  /-- Some part of the schema cannot be made. -/
  | stopped {e : Error} {made : Database}
      (schema : SchemaPart.makeAll names
        (schemaParts (p.hybridSearch || Store.isIndexed names db)) db = (.error e, made)) :
      Opening names p db (.error e, made)
  /-- The schema is made, and there is no new index. -/
  | opened {made : Database}
      (schema : SchemaPart.makeAll names
        (schemaParts (p.hybridSearch || Store.isIndexed names db)) db = (.ok (), made))
      (index : p.hybridSearch = true → Store.isIndexed names db = true) :
      Opening names p db
        (.ok ⟨names, { p with hybridSearch := p.hybridSearch || Store.isIndexed names db }⟩, made)
  /-- A new index is made and cannot be filled. -/
  | unfilled {e : Error} {made : Database}
      (schema : SchemaPart.makeAll names (schemaParts true) db = (.ok (), made))
      (hybrid : p.hybridSearch = true) (absent : Store.isIndexed names db = false)
      (fill : Store.fillIndex names p.analyzer made = .error e) :
      Opening names p db (.error e, made)
  /-- A new index is made and filled. -/
  | filled {made : Database} {rows : List LexemeRow}
      (schema : SchemaPart.makeAll names (schemaParts true) db = (.ok (), made))
      (hybrid : p.hybridSearch = true) (absent : Store.isIndexed names db = false)
      (fill : Store.fillIndex names p.analyzer made =
        .ok (made.put names.lexemes (.lexemes rows))) :
      Opening names p db (.ok ⟨names, p⟩, made.put names.lexemes (.lexemes rows))

/-- Parameters with a refused name open nothing and change nothing. -/
theorem openOn_of_refused {p : StoreParams} {e : Error}
    (hp : TableNames.ofName p.tableName = .error e) (db : Database) :
    Store.openOn p db = (.error e, db) := by
  rw [Store.openOn, hp]

section Openings

variable {p : StoreParams} {names : TableNames} (hname : TableNames.ofName p.tableName = .ok names)
  (db : Database)
include hname

theorem opening_of_openOn : Opening names p db (Store.openOn p db) := by
  unfold Store.openOn
  rw [hname]
  dsimp only
  cases hschema : SchemaPart.makeAll names
      (schemaParts (p.hybridSearch || Store.isIndexed names db)) db with
  | mk result made =>
      cases result with
      | error e => exact .stopped hschema
      | ok done =>
          dsimp only
          split
          · rename_i hfill
            rw [Bool.and_eq_true, Bool.not_eq_true'] at hfill
            obtain ⟨hhybrid, habsent⟩ := hfill
            rw [hhybrid] at hschema
            rw [habsent, Bool.or_false] at hhybrid ⊢
            cases hfilled : Store.fillIndex names p.analyzer made with
            | error e => exact .unfilled hschema hhybrid habsent hfilled
            | ok filled =>
                obtain ⟨rows, -, hput⟩ := bind_eq_ok_iff.mp hfilled
                obtain ⟨lexemes, -, hput⟩ := bind_eq_ok_iff.mp hput
                obtain rfl := Except.ok.inj hput
                exact .filled hschema hhybrid habsent hfilled
          · rename_i hnone
            refine .opened hschema fun hhybrid => ?_
            simpa [hhybrid] using hnone

/-- **What an opening keeps** is what each part of the schema keeps, and the filling of an index
that was not there. -/
theorem openOn_keeps_filling {P : Database → Prop}
    (hpart : ∀ {mid made : Database} {part : SchemaPart}, part.Made names mid made → P mid → P made)
    (hfill : Store.isIndexed names db = false → ∀ {made : Database} {rows : List LexemeRow},
      Store.fillIndex names p.analyzer made = .ok (made.put names.lexemes (.lexemes rows)) →
        P made → P (made.put names.lexemes (.lexemes rows)))
    (h : P db) : P (Store.openOn p db).2 := by
  have hopening := opening_of_openOn hname db
  generalize Store.openOn p db = done at hopening ⊢
  cases hopening with
  | stopped schema | opened schema =>
      have hall := SchemaPart.makeAll_keeps hpart
        (schemaParts (p.hybridSearch || Store.isIndexed names db)) h
      rwa [schema] at hall
  | unfilled schema =>
      have hall := SchemaPart.makeAll_keeps hpart (schemaParts true) h
      rwa [schema] at hall
  | filled schema _ absent fill =>
      have hall := SchemaPart.makeAll_keeps hpart (schemaParts true) h
      rw [schema] at hall
      exact hfill absent fill hall

/-- The same where it does not matter what the index is filled with. -/
theorem openOn_keeps {P : Database → Prop}
    (hpart : ∀ {mid made : Database} {part : SchemaPart}, part.Made names mid made → P mid → P made)
    (hfill : Store.isIndexed names db = false → ∀ {made : Database} (rows : List LexemeRow),
      P made → P (made.put names.lexemes (.lexemes rows)))
    (h : P db) : P (Store.openOn p db).2 :=
  openOn_keeps_filling hname db hpart (fun habsent _ rows _ hmade => hfill habsent rows hmade) h

/-- An opening that succeeds gives a store under its names, with the whole schema of the store. -/
theorem isPresent_of_openOn {store : Store} (hstore : (Store.openOn p db).1 = .ok store) :
    store.names = names ∧ ∀ part ∈ schemaParts store.hybrid,
      part.isPresent names (Store.openOn p db).2 = true := by
  have hopening := opening_of_openOn hname db
  generalize Store.openOn p db = done at hopening hstore ⊢
  cases hopening with
  | stopped | unfilled => cases hstore
  | opened schema =>
      obtain rfl := Except.ok.inj hstore
      exact ⟨rfl, fun part hpart => SchemaPart.isPresent_of_makeAll schema (Or.inr hpart)⟩
  | @filled made rows schema hybrid =>
      obtain rfl := Except.ok.inj hstore
      refine ⟨rfl, fun part hpart => ?_⟩
      rw [Store.hybrid, hybrid] at hpart
      have hmade := SchemaPart.isPresent_of_makeAll schema (Or.inr hpart)
      -- filling puts a table and takes nothing away
      have htable : ∀ name, (made.table? name).isSome = true →
          ((made.put names.lexemes (.lexemes rows)).table? name).isSome = true := by
        intro name hsome
        rw [Database.table?_put]
        split
        exacts [rfl, hsome]
      cases part with
      | dataTable | lexemeTable => exact htable _ hmade
      | documentIndex | lexemeIndex => exact hmade

/-- An opening that succeeds leaves the index of data rows by document. -/
theorem documentIndex_mem_of_openOn {store : Store} (hstore : (Store.openOn p db).1 = .ok store) :
    store.names = names ∧ names.documentIndex ∈ (Store.openOn p db).2.indexes := by
  obtain ⟨hnames, hpresent⟩ := isPresent_of_openOn hname db hstore
  refine ⟨hnames, List.contains_iff_mem.mp (hpresent .documentIndex ?_)⟩
  cases store.hybrid <;> simp [schemaParts]

end Openings

end HybridRetrieval
