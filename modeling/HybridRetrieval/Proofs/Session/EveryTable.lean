import HybridRetrieval.Proofs.Session.Keyed
import HybridRetrieval.Proofs.Store.Listings
/-!
# What holds of every table

A new table is empty or filled from the stored rows, and a write works on the rows of one data table
and of its index.  So what lasts on single tables (`Table.Lasting`) holds of every table in every
state of every run, and also after edits, if edits keep it (`Session.EditedRun.every`).
-/

namespace HybridRetrieval

/-- What holds of empty tables and of an index that is filled, and is kept by what a write makes of
a data table and of an index. -/
structure Table.Lasting (P : Table → Prop) : Prop where
  emptyData : P (.data [])
  emptyIndex : P (.lexemes [])
  filled : ∀ {a : Analyzer} {rows : List DataRow} {lexemes : List LexemeRow}, P (.data rows) →
    Store.lexemeRowsOfRows a rows = .ok lexemes → P (.lexemes lexemes)
  rowsAfter : ∀ (w : Write) {rows : List DataRow}, P (.data rows) → P (.data (w.rowsAfter rows))
  lexemesAfter : ∀ (w : Write) (a : Analyzer) (rows : List DataRow) {lexemes : List LexemeRow},
    P (.lexemes lexemes) → P (.lexemes (w.lexemesAfter a rows lexemes))

/-- It holds of every table. -/
def Database.Every (P : Table → Prop) (db : Database) : Prop :=
  ∀ name table, db.table? name = some table → P table

namespace Database

variable {P : Table → Prop} {db made : Database}

theorem every_empty (P : Table → Prop) : Every P .empty := fun _ _ h => by cases h

namespace Every

/-- Putting a table of which it holds. -/
theorem put (h : db.Every P) (name : String) {table : Table} (htable : P table) :
    (db.put name table).Every P := by
  intro other found hfound
  rw [table?_put] at hfound
  split at hfound
  · rw [← Option.some.inj hfound]
    exact htable
  · exact h other found hfound

/-- **An opening** makes tables that are empty or filled. -/
theorem openOn (hlasting : Table.Lasting P) (h : db.Every P) (p : StoreParams) :
    (Store.openOn p db).2.Every P := by
  cases hname : TableNames.ofName p.tableName with
  | error e => rwa [openOn_of_refused hname]
  | ok names =>
      refine openOn_keeps_filling hname db (P := Every P) ?_ ?_ h
      · intro mid made part hpart hmid
        cases hpart with
        | present | documentIndex | lexemeIndex => exact hmid
        | dataTable => exact hmid.put _ hlasting.emptyData
        | lexemeTable => exact hmid.put _ hlasting.emptyIndex
      · intro _ made lexemes hfill hmade
        obtain ⟨rows, hrows, hfill⟩ := bind_eq_ok_iff.mp hfill
        obtain ⟨filled, hfilled, hfill⟩ := bind_eq_ok_iff.mp hfill
        rw [← Except.ok.inj hfill]
        exact hmade.put _ (hlasting.filled (hmade _ _ (table?_of_dataRows hrows)) hfilled)

/-- **A write** works on a data table and its index, and leaves the others. -/
theorem write (hlasting : Table.Lasting P) (h : db.Every P) {s : Store} {w : Write}
    {rows : List DataRow} (hequipped : Equipped s db) (hleaves : s.Leaves w rows db made)
    (hrows : db.table? s.names.data = some (.data rows)) : made.Every P := by
  intro name table htable
  by_cases hdata : name = s.names.data
  · subst hdata
    rw [hleaves.data] at htable
    rw [← Option.some.inj htable]
    exact hlasting.rowsAfter w (h _ _ hrows)
  · by_cases hindex : s.hybrid = true ∧ name = s.names.lexemes
    · obtain ⟨hhybrid, rfl⟩ := hindex
      obtain ⟨lexemes, hlexemes⟩ := hequipped.index hhybrid
      rw [hleaves.index hhybrid lexemes hlexemes] at htable
      rw [← Option.some.inj htable]
      exact hlasting.lexemesAfter w _ rows (h _ _ hlexemes)
    · rw [hleaves.others name hdata fun hhybrid heq => hindex ⟨hhybrid, heq⟩] at htable
      exact h name table htable

end Every

end Database

/-- Whatever stores do keeps what lasts on tables, beside what stores find in them. -/
theorem maintained_every {P : Table → Prop} (h : Table.Lasting P) :
    Session.Maintained (fun db => WellShaped db ∧ db.Every P) Equipped (fun _ => True)
      (fun _ _ _ => True) :=
  maintained_beside (Database.every_empty P) (fun p _ hevery => hevery.openOn h p)
    fun hequipped hleaves hrows hevery => hevery.write h hequipped hleaves hrows

/-- **What lasts on tables holds of every table**, whatever is done, and whatever is edited as long
as edits keep it. -/
theorem Session.EditedRun.every {P : Table → Prop} (h : Table.Lasting P)
    (hedit : ∀ {db made : Database} {table id : String} {column : DataColumn} {cell : Cell}
      {changed : Nat}, db.Every P → db.edit table id column cell = .ok (changed, made) →
      made.Every P)
    {start s : Session} (hstart : start.Fresh) (run : EditedRun start s) :
    s.Upheld (fun db => WellShaped db ∧ db.Every P) Equipped :=
  run.upheld_beside (maintained_every h) hedit
    (.of_fresh hstart ⟨wellShaped_empty, Database.every_empty P⟩)

end HybridRetrieval
