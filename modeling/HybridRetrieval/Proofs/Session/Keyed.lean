import HybridRetrieval.Proofs.Session.Stocks
import Mathlib.Data.List.Nodup
/-!
# No two rows of one node

In no data table do two rows have the same identifier.  A write puts a row in the place of the one
with its identifier, an opening adds no rows, and an edit that gives a row the identifier of another
one is refused.  So tables stay keyed whatever is done and edited (`Session.EditedRun.keyed`), also
where the rows have long ceased to be those of items.
-/

namespace HybridRetrieval

/-- No two rows of a data table have the same identifier. -/
def Database.Keyed (db : Database) : Prop :=
  ∀ table, ((db.rowsOf table).map DataRow.nodeId).Nodup

/-! ## Writing -/

/-- The identifiers after a row is put in its place. -/
theorem DataRow.map_nodeId_upsert (row : DataRow) (rows : List DataRow) :
    (upsert row rows).map nodeId =
      if row.nodeId ∈ rows.map nodeId then rows.map nodeId
      else rows.map nodeId ++ [row.nodeId] := by
  induction rows with
  | nil => simp [upsert]
  | cons other rest ih =>
      unfold upsert
      by_cases hother : other.nodeId = row.nodeId
      · simp [hother]
      · have hne : row.nodeId ≠ other.nodeId := Ne.symm hother
        rw [if_neg hother, List.map_cons, ih]
        by_cases hmem : row.nodeId ∈ rest.map nodeId
        · simp [hmem]
        · simp [hmem, hne]

theorem DataRow.nodup_upsert {row : DataRow} {rows : List DataRow}
    (h : (rows.map nodeId).Nodup) : ((upsert row rows).map nodeId).Nodup := by
  rw [map_nodeId_upsert]
  split
  · exact h
  · rename_i hnew
    rw [List.nodup_append]
    refine ⟨h, List.nodup_singleton _, ?_⟩
    rintro id hid _ hlast rfl
    exact hnew (List.mem_singleton.mp hlast ▸ hid)

/-- A write leaves no two rows with one identifier. -/
theorem Write.nodup_rowsAfter {rows : List DataRow} (w : Write)
    (h : (rows.map DataRow.nodeId).Nodup) : ((w.rowsAfter rows).map DataRow.nodeId).Nodup := by
  cases w with
  | delete docId => exact h.sublist (List.filter_sublist.map _)
  | add new =>
      rw [Write.rowsAfter]
      induction new generalizing rows with
      | nil => exact h
      | cons item rest ih => exact ih (DataRow.nodup_upsert h)

/-! ## Editing -/

/-- The row with the cell replaced if it is that of the node. -/
def DataRow.editedAt (id : String) (column : DataColumn) (cell : Cell) (row : DataRow) : DataRow :=
  if row.nodeId == .text id then row.setCell column cell else row

/-- An edit replaces cells in the rows of one table. -/
theorem Database.rowsOf_edit {db made : Database} {table id : String} {column : DataColumn}
    {cell : Cell} {changed : Nat} (h : db.edit table id column cell = .ok (changed, made)) :
    ∃ name rows, db.rowsOf name = rows ∧
      (column = .nodeId → ∀ row ∈ rows, row.nodeId = .text id → ∀ other ∈ rows,
        other.nodeId ≠ .text id → other.nodeId ≠ cell) ∧
      ∀ other, made.rowsOf other =
        if other = name then rows.map (.editedAt id column cell) else db.rowsOf other := by
  obtain ⟨names, -, h⟩ := bind_eq_ok_iff.mp h
  obtain ⟨rows, hrows, h⟩ := bind_eq_ok_iff.mp h
  have hdata := table?_of_dataRows hrows
  dsimp only at h
  split at h
  · cases h
  · rename_i hfree
    obtain ⟨-, rfl⟩ := Prod.mk.inj (Except.ok.inj h)
    refine ⟨names.data, rows, rowsOf_eq hdata, ?_, fun other => ?_⟩
    · intro hcolumn row hrow hid other hother hne heq
      refine hfree ⟨hcolumn, List.any_eq_true.mpr ⟨row, hrow, by simp [hid]⟩, ?_⟩
      refine List.any_eq_true.mpr ⟨other, hother, ?_⟩
      rw [heq] at hne ⊢
      simp [hne]
    · split
      · rename_i heq
        subst heq
        exact rowsOf_eq (table?_put_self _ _ _)
      · rename_i hne
        exact rowsOf_congr (table?_put_of_ne _ _ hne)

/-- Only an edit of the identifier changes identifiers. -/
theorem DataRow.nodeId_setCell (row : DataRow) (column : DataColumn) (cell : Cell) :
    (row.setCell column cell).nodeId = if column = .nodeId then cell else row.nodeId := by
  cases column <;> rfl

/-- **An edit** leaves no two rows with one identifier: it may not take that of another row. -/
theorem Database.Keyed.edit {db made : Database} (h : db.Keyed) {table id : String}
    {column : DataColumn} {cell : Cell} {changed : Nat}
    (hedit : db.edit table id column cell = .ok (changed, made)) : made.Keyed := by
  obtain ⟨name, rows, hrows, hfree, hafter⟩ := rowsOf_edit hedit
  intro other
  rw [hafter]
  split
  · rw [List.map_map]
    have hkeyed : (rows.map DataRow.nodeId).Nodup := hrows ▸ h name
    refine (List.Nodup.of_map _ hkeyed).map_on fun x hx y hy heq => ?_
    refine List.inj_on_of_nodup_map hkeyed hx hy ?_
    simp only [Function.comp_apply, DataRow.editedAt, beq_iff_eq] at heq
    by_cases hcolumn : column = .nodeId
    · -- the new identifier is that of no other row
      have hcell : ∀ row : DataRow, (row.setCell column cell).nodeId = cell := fun row => by
        rw [DataRow.nodeId_setCell, if_pos hcolumn]
      by_cases hxid : x.nodeId = .text id
      · by_cases hyid : y.nodeId = .text id
        · exact hxid.trans hyid.symm
        · rw [if_pos hxid, if_neg hyid, hcell] at heq
          exact absurd heq.symm (hfree hcolumn x hx hxid y hy hyid)
      · by_cases hyid : y.nodeId = .text id
        · rw [if_neg hxid, if_pos hyid, hcell] at heq
          exact absurd heq (hfree hcolumn y hy hyid x hx hxid)
        · rwa [if_neg hxid, if_neg hyid] at heq
    · have hsame : ∀ row : DataRow,
          (if row.nodeId = .text id then row.setCell column cell else row).nodeId = row.nodeId := by
        intro row
        split
        · rw [DataRow.nodeId_setCell, if_neg hcolumn]
        · rfl
      rwa [hsame, hsame] at heq
  · exact h other

/-! ## Sessions -/

/-- Whatever stores do keeps tables keyed, beside what stores find in them. -/
theorem maintained_keyed :
    Session.Maintained (fun db => WellShaped db ∧ db.Keyed) Equipped (fun _ => True)
      (fun _ _ _ => True) := by
  refine maintained_beside (fun _ => List.nodup_nil) ?_ ?_
  · intro p db hkeyed table
    rw [rowsOf_openOn]
    exact hkeyed table
  · intro s w rows db made hequipped hleaves hrows hkeyed table
    rw [hleaves.rowsOf hequipped hrows]
    split
    · exact w.nodup_rowsAfter (hkeyed table)
    · exact hkeyed table

namespace Session

/-- A session in which nothing has been opened, on databases in order: every index has its table,
and tables are keyed. -/
structure Orderly (s : Session) : Prop where
  connections : s.connections = []
  handles : s.handles = []
  files : ∀ place db, s.disk.find? place = some (.database db) → WellShaped db ∧ db.Keyed

/-- Empty databases are in order. -/
theorem Fresh.orderly {s : Session} (h : s.Fresh) : s.Orderly where
  connections := h.connections
  handles := h.handles
  files place db hdb := by
    rw [h.empty place db (Disk.databaseAt_of_find? hdb)]
    exact ⟨wellShaped_empty, fun _ => List.nodup_nil⟩

/-- **Tables stay keyed**, and every open handle has its tables, whatever is done and edited. -/
theorem EditedRun.keyed {start s : Session} (hstart : start.Orderly) (run : EditedRun start s) :
    s.Upheld (fun db => WellShaped db ∧ db.Keyed) Equipped :=
  run.upheld_beside maintained_keyed (fun hkeyed hedit => hkeyed.edit hedit)
    (.of_idle hstart.connections hstart.handles hstart.files)

end Session

end HybridRetrieval
