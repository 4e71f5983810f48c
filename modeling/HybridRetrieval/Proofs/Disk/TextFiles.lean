import HybridRetrieval.Proofs.Disk.Reopening
import HybridRetrieval.Proofs.Steps
/-!
# Text files

A text file that is written lies where its path leads, before and after: writing puts no obstacle on
the way to it.  So it is read back with the content that was written (`readText_writeText`).
-/

namespace HybridRetrieval.Disk

variable {d made : Disk} {path content : String} {place : Location}

/-- What is put where no directory is leaves the path leading there. -/
theorem resolve_put (hplace : place ≠ []) (hfree : d.find? place ≠ some .directory)
    (e : DiskEntry) {last : Location} (h : d.resolve path = .ok last) :
    (d.put place e).resolve path = .ok last := by
  unfold resolve at h ⊢
  split_ifs at h ⊢
  exact walk_put hplace hfree e h

/-- A text that can be written is put where the path leads, which is no directory. -/
theorem writeText_ok (h : d.writeText path content = .ok made) :
    ∃ place, d.resolve path = .ok place ∧ place ≠ [] ∧ d.find? place ≠ some .directory ∧
      made = d.put place (.text content) := by
  rw [writeText, bind_eq_ok_iff] at h
  obtain ⟨place, hplace, h⟩ := h
  split_ifs at h with hslash
  · cases h
  rw [not_not.mp hslash] at hplace
  dsimp only at h
  split at h
  · cases h
  · rename_i hfree
    have hroot : place ≠ [] := by
      rintro rfl
      exact hfree rfl
    cases h
    exact ⟨place, hplace, hroot, hfree, rfl⟩
  · cases h
  · cases h

/-- **A written text lies where its path leads, and nothing else changes.** -/
theorem lookup_writeText (h : d.writeText path content = .ok made) :
    ∃ place, made.lookup path = .ok (place, .text content) ∧
      ∀ other, other ≠ place → made.find? other = d.find? other := by
  obtain ⟨place, hplace, hroot, hfree, rfl⟩ := writeText_ok h
  refine ⟨place, ?_, fun other hother => by rw [find?_put d hroot, if_neg hother]⟩
  have hfind : (d.put place (.text content)).find? place = some (.text content) := by
    rw [find?_put d hroot, if_pos rfl]
  rw [lookup, resolve_put hroot hfree _ hplace, bind_eq_ok_iff]
  exact ⟨place, rfl, by rw [hfind]; rfl⟩

theorem exists_writeText (h : d.writeText path content = .ok made) : made.exists? path = true := by
  obtain ⟨place, hlookup, -⟩ := lookup_writeText h
  rw [exists?, hlookup]
  rfl

/-- **A written text is read back.** -/
theorem readText_writeText (h : d.writeText path content = .ok made) :
    made.readText path = .ok content := by
  obtain ⟨place, hlookup, -⟩ := lookup_writeText h
  rw [readText, hlookup]
  rfl

end HybridRetrieval.Disk
