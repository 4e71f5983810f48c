import HybridRetrieval.Proofs.Disk.Databases
import Mathlib.Data.List.Infix
/-!
# Opening a path again

Opening a store makes the directories on the way to its database.  Once they are made the way stays
open: the same path can be walked (`hasParent_of_ensureParent`), and nothing is made for it again
(`HasParent.ensureParent`).  Putting a database at its end does not block it (`HasParent.stores`).
So a database that was opened under a path is found under it from then on.
-/

namespace HybridRetrieval

namespace Disk

variable {d made : Disk} {here place : Location} {parts : List String} {path : String}

/-! ## The way to a place -/

/-- The place and everything above it are directories. -/
def IsOpenTo (d : Disk) (here : Location) : Prop :=
  ∀ place, place <+: here → d.find? place = some .directory

/-- The root is always a directory. -/
theorem isOpenTo_root (d : Disk) : d.IsOpenTo [] := by
  intro place hplace
  rw [List.prefix_nil.mp hplace, find?, if_pos rfl]

namespace IsOpenTo

theorem directory (h : d.IsOpenTo here) : d.find? here = some .directory :=
  h here (List.prefix_refl here)

/-- Going up. -/
theorem dropLast (h : d.IsOpenTo here) : d.IsOpenTo here.dropLast :=
  fun place hplace => h place (hplace.trans here.dropLast_prefix)

/-- Going down into a directory. -/
theorem concat (h : d.IsOpenTo here) {part : String}
    (hnext : d.find? (here ++ [part]) = some .directory) : d.IsOpenTo (here ++ [part]) := by
  intro place hplace
  rcases List.prefix_concat_iff.mp hplace with rfl | hprefix
  · exact hnext
  · exact h place hprefix

end IsOpenTo

/-- A new directory leaves the others. -/
theorem directory_put (hplace : place ≠ []) {other : Location}
    (h : d.find? other = some .directory) :
    (d.put place .directory).find? other = some .directory := by
  rw [find?_put d hplace]
  split
  · rfl
  · exact h

/-- Making directories leaves those that are there. -/
theorem directory_makeDirectories (h : d.makeDirectories here parts = .ok made)
    (hplace : d.find? place = some .directory) : made.find? place = some .directory := by
  induction parts generalizing d here with
  | nil =>
      obtain rfl := Except.ok.inj h
      exact hplace
  | cons part rest ih =>
      unfold makeDirectories at h
      split at h
      · exact ih h hplace
      · split at h
        · exact ih h hplace
        · dsimp only at h
          split at h
          · cases h
          · exact ih h hplace
          · cases h
          · exact ih h (directory_put (by simp) hplace)

/-- **Directories that were made can be walked**, and lead to a directory. -/
theorem walk_makeDirectories (h : d.makeDirectories here parts = .ok made)
    (hopen : d.IsOpenTo here) :
    ∃ place, made.walk here parts = .ok place ∧ made.find? place = some .directory := by
  induction parts generalizing d here with
  | nil =>
      obtain rfl := Except.ok.inj h
      exact ⟨here, rfl, hopen.directory⟩
  | cons part rest ih =>
      have hhere := directory_makeDirectories h hopen.directory
      unfold makeDirectories at h
      unfold walk
      rw [hhere]
      dsimp only
      split at h
      · rename_i hstay
        rw [if_pos hstay]
        exact ih h hopen
      · rename_i hmove
        rw [if_neg hmove]
        split at h
        · rename_i hup
          rw [if_pos hup]
          exact ih h hopen.dropLast
        · rename_i hdown
          rw [if_neg hdown]
          dsimp only at h
          split at h
          · cases h
          · rename_i hname hnext
            rw [hname]
            exact ih h (hopen.concat hnext)
          · cases h
          · rename_i hname _
            rw [hname]
            have hnext : (d.put (here ++ [part]) .directory).IsOpenTo here :=
              fun place hplace => directory_put (by simp) (hopen place hplace)
            refine ih h (hnext.concat ?_)
            rw [find?_put d (by simp), if_pos rfl]

/-- What is put where no directory is blocks no way. -/
theorem walk_put (hplace : place ≠ []) (hfree : d.find? place ≠ some .directory) (e : DiskEntry)
    {last : Location} (h : d.walk here parts = .ok last) :
    (d.put place e).walk here parts = .ok last := by
  induction parts generalizing here with
  | nil => exact h
  | cons part rest ih =>
      unfold walk at h ⊢
      split at h
      · rename_i hhere
        have hne : here ≠ place := fun heq => hfree (heq ▸ hhere)
        rw [find?_put d hplace, if_neg hne, hhere]
        dsimp only
        split at h
        · rename_i hstay
          rw [if_pos hstay]
          exact ih h
        · rename_i hmove
          rw [if_neg hmove]
          split at h
          · rename_i hup
            rw [if_pos hup]
            exact ih h
          · rename_i hdown
            rw [if_neg hdown]
            split at h
            · cases h
            · exact ih h
      · cases h
      · cases h

/-! ## The directory of a path -/

/-- The directory of the path is there. -/
structure HasParent (d : Disk) (path : String) : Prop where
  relative : isAbsolute path = false
  walks : ∃ place, d.walk [] (parentParts path) = .ok place ∧ (d.find? place).isSome = true

/-- What was made for a path is there. -/
theorem hasParent_of_ensureParent (h : d.ensureParent path = .ok made) : made.HasParent path := by
  have hmake : ensureParent.make d (parentParts path) = .ok made →
      ∃ place, made.walk [] (parentParts path) = .ok place ∧ (made.find? place).isSome = true := by
    intro hmade
    unfold ensureParent.make at hmade
    cases hdirectories : d.makeDirectories [] (parentParts path) with
    | error e =>
        rw [hdirectories] at hmade
        cases hmade
    | ok made' =>
        rw [hdirectories] at hmade
        obtain rfl := Except.ok.inj hmade
        obtain ⟨place, hwalk, hplace⟩ := walk_makeDirectories hdirectories d.isOpenTo_root
        exact ⟨place, hwalk, by rw [hplace]; rfl⟩
  unfold ensureParent at h
  split at h
  · cases h
  · rename_i hrelative
    refine ⟨by simpa using hrelative, ?_⟩
    dsimp only at h
    split at h
    · rename_i place hwalk
      split at h
      · rename_i hplace
        obtain rfl := Except.ok.inj h
        exact ⟨place, hwalk, hplace⟩
      · exact hmake h
    · exact hmake h

namespace HasParent

/-- Nothing is made for a path whose directory is there. -/
theorem ensureParent (h : d.HasParent path) : d.ensureParent path = .ok d := by
  obtain ⟨place, hwalk, hplace⟩ := h.walks
  unfold Disk.ensureParent
  rw [if_neg (by simp [h.relative])]
  simp only [hwalk, hplace, if_true]

/-- The directory stays there when something is put elsewhere. -/
theorem put (h : d.HasParent path) (hplace : place ≠ [])
    (hfree : d.find? place ≠ some .directory) (e : DiskEntry) : (d.put place e).HasParent path := by
  obtain ⟨last, hwalk, hlast⟩ := h.walks
  refine ⟨h.relative, last, walk_put hplace hfree e hwalk, ?_⟩
  rw [find?_put d hplace]
  split
  · rfl
  · exact hlast

end HasParent

/-! ## The database of a path -/

/-- The database is at the end of the path, which can be walked. -/
structure Stores (d : Disk) (path : String) (db : Database) : Prop where
  parent : d.HasParent path
  found : d.find? (databaseLocation path) = some (.database db)

/-- A directory is no database. -/
theorem ne_directory_of_databaseAt {db : Database} (h : d.databaseAt place = .ok db) :
    d.find? place ≠ some .directory := by
  intro hdirectory
  rw [databaseAt, hdirectory] at h
  cases h

/-- What is put in the place of a database can be walked to if the database could. -/
theorem HasParent.stores (h : d.HasParent path) {db : Database}
    (hdb : d.databaseAt (databaseLocation path) = .ok db) (next : Database) :
    (d.put (databaseLocation path) (.database next)).Stores path next where
  parent := h.put (databaseAt_ok hdb).1 (ne_directory_of_databaseAt hdb) _
  found := by rw [find?_put d (databaseAt_ok hdb).1, if_pos rfl]

/-- Replacing the database. -/
theorem Stores.put {db : Database} (h : d.Stores path db) (next : Database) :
    (d.put (databaseLocation path) (.database next)).Stores path next :=
  h.parent.stores (databaseAt_of_find? h.found) next

section Opening

variable {p : StoreParams} {names : TableNames} {db : Database}

/-- Opening a store, step by step. -/
theorem openStore_eq (hname : TableNames.ofName p.tableName = .ok names)
    (hparent : d.ensureParent p.database = .ok made)
    (hdb : made.databaseAt (databaseLocation p.database) = .ok db) :
    d.openStore p = ((Store.openOn p db).1,
      made.put (databaseLocation p.database) (.database (Store.openOn p db).2)) := by
  simp only [openStore, hname, hparent, hdb]

/-- **An opening that succeeds** has made the way to a database and opened the store on it. -/
theorem exists_of_openStore {store : Store} (h : (d.openStore p).1 = .ok store) :
    ∃ made db, d.ensureParent p.database = .ok made ∧
      made.databaseAt (databaseLocation p.database) = .ok db ∧
      (Store.openOn p db).1 = .ok store := by
  unfold openStore at h
  split at h
  · cases h
  · split at h
    · cases h
    · rename_i made hparent
      dsimp only at h
      split at h
      · cases h
      · rename_i db hdb
        exact ⟨made, db, hparent, hdb, h⟩

end Opening

end Disk

end HybridRetrieval
