import HybridRetrieval.Disk.Basic
import HybridRetrieval.Proofs.Database.Entries
/-!
# The databases of a disk

Opening a store may make directories on the way to its database.  They are made where nothing was,
so the databases of the disk stay as they are (`database_ensureParent`); then the database itself is
put in its place (`openStore_cases`).
-/

namespace HybridRetrieval

namespace Disk

/-- Putting an entry decides what its place holds and leaves every other place alone. -/
theorem find?_put (d : Disk) {place : Location} (h : place ≠ []) (e : DiskEntry)
    (other : Location) :
    (d.put place e).find? other = if other = place then some e else d.find? other := by
  unfold find?
  by_cases hother : other = []
  · rw [if_pos hother, if_pos hother, hother, if_neg h.symm]
  · rw [if_neg hother, if_neg hother]
    exact Entries.lookup_put d.entries place e other

/-- Putting an entry twice is putting it once. -/
theorem put_put (d : Disk) (place : Location) (e : DiskEntry) :
    (d.put place e).put place e = d.put place e :=
  congrArg Disk.mk (Entries.agree_put d.entries place e).put_eq

/-- The root is a directory, so a database is never there. -/
theorem ne_nil_of_database {d : Disk} {place : Location} {db : Database}
    (h : d.find? place = some (.database db)) : place ≠ [] := by
  intro hroot
  rw [find?, if_pos hroot] at h
  cases h

/-- A new directory takes no database away and brings none. -/
theorem database_put_directory (d : Disk) {place : Location} (hplace : place ≠ [])
    (hfree : d.find? place = none) (other : Location) (db : Database) :
    (d.put place .directory).find? other = some (.database db) ↔
      d.find? other = some (.database db) := by
  rw [find?_put d hplace]
  by_cases h : other = place
  · subst h
    simp [hfree]
  · rw [if_neg h]

/-- **Making directories** leaves the databases as they are. -/
theorem database_makeDirectories {parts : List String} {d made : Disk} {here : Location}
    (h : d.makeDirectories here parts = .ok made) (place : Location) (db : Database) :
    made.find? place = some (.database db) ↔ d.find? place = some (.database db) := by
  induction parts generalizing d here with
  | nil =>
      obtain rfl := Except.ok.inj h
      rfl
  | cons part rest ih =>
      unfold makeDirectories at h
      split at h
      · exact ih h
      · split at h
        · exact ih h
        · dsimp only at h
          split at h
          · cases h
          · exact ih h
          · cases h
          · rename_i _ hfree
            exact (ih h).trans (database_put_directory d (by simp) hfree place db)

theorem database_ensureParent {d made : Disk} {path : String}
    (h : d.ensureParent path = .ok made) (place : Location) (db : Database) :
    made.find? place = some (.database db) ↔ d.find? place = some (.database db) := by
  have hmake : ∀ parts, ensureParent.make d parts = .ok made →
      (made.find? place = some (.database db) ↔ d.find? place = some (.database db)) := by
    intro parts hparts
    unfold ensureParent.make at hparts
    cases hdirectories : d.makeDirectories [] parts with
    | error e =>
        rw [hdirectories] at hparts
        cases hparts
    | ok made' =>
        rw [hdirectories] at hparts
        obtain rfl := Except.ok.inj hparts
        exact database_makeDirectories hdirectories place db
  unfold ensureParent at h
  split at h
  · cases h
  · dsimp only at h
    split at h
    · split at h
      · obtain rfl := Except.ok.inj h
        rfl
      · exact hmake _ h
    · exact hmake _ h

theorem databaseAt_of_find? {d : Disk} {place : Location} {db : Database}
    (h : d.find? place = some (.database db)) : d.databaseAt place = .ok db := by
  rw [databaseAt, h]

/-- A database that can be used is there, or else it is the empty one, under a name that is not
that of the root. -/
theorem databaseAt_ok {d : Disk} {place : Location} {db : Database}
    (h : d.databaseAt place = .ok db) :
    place ≠ [] ∧ (d.find? place = some (.database db) ∨
      (∀ other, d.find? place ≠ some (.database other)) ∧ db = .empty) := by
  constructor
  · rintro rfl
    simp [databaseAt, find?] at h
  · unfold databaseAt at h
    split at h
    · rename_i found _ hfound
      obtain rfl := Except.ok.inj h
      exact Or.inl hfound
    · rename_i hfound
      split at h
      · exact Or.inr ⟨by simp [hfound], (Except.ok.inj h).symm⟩
      · cases h
    · cases h
    · rename_i hfound _
      split at h
      · cases h
      · exact Or.inr ⟨by simp [hfound], (Except.ok.inj h).symm⟩
    · cases h

/-- **Opening on a disk.**  Either the databases of the disk stay as they are and opening fails, or
the store is opened on the database at its place, which is put back there. -/
theorem openStore_cases (d : Disk) (p : StoreParams) :
    ((∃ e, (d.openStore p).1 = .error e) ∧ ∀ place db,
        (d.openStore p).2.find? place = some (.database db) ↔
          d.find? place = some (.database db)) ∨
      ∃ db, databaseLocation p.database ≠ [] ∧
        (d.find? (databaseLocation p.database) = some (.database db) ∨
          (∀ other, d.find? (databaseLocation p.database) ≠ some (.database other)) ∧
            db = .empty) ∧
        (d.openStore p).1 = (Store.openOn p db).1 ∧
        ∀ place other, (d.openStore p).2.find? place = some (.database other) ↔
          if place = databaseLocation p.database then other = (Store.openOn p db).2
          else d.find? place = some (.database other) := by
  unfold openStore
  cases hname : TableNames.ofName p.tableName with
  | error e => exact Or.inl ⟨⟨e, rfl⟩, fun _ _ => Iff.rfl⟩
  | ok names =>
      cases hparent : d.ensureParent p.database with
      | error e => exact Or.inl ⟨⟨e, rfl⟩, fun _ _ => Iff.rfl⟩
      | ok made =>
          have hsame := database_ensureParent hparent
          cases hdb : made.databaseAt (databaseLocation p.database) with
          | error e => exact Or.inl ⟨⟨e, by simp only [hdb]⟩, by simpa only [hdb] using hsame⟩
          | ok db =>
              obtain ⟨hroot, hfound⟩ := databaseAt_ok hdb
              refine Or.inr ⟨db, hroot, ?_, by simp only [hdb], ?_⟩
              · simpa only [hsame, ne_eq] using hfound
              · intro place other
                simp only [hdb]
                rw [find?_put made hroot]
                by_cases h : place = databaseLocation p.database
                · rw [if_pos h, if_pos h]
                  simp [eq_comm]
                · rw [if_neg h, if_neg h, hsame]

end Disk

end HybridRetrieval
