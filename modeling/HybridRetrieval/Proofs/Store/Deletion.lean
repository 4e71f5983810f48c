import HybridRetrieval.Proofs.Store.Equipped
/-!
# Deleting a document

Over the rows of a stock a deletion takes away the rows of the items that were taken from the
document, and in a hybrid store their lexemes; everything else stays in its place
(`Store.Deletes`, `Store.delete_of_equipped`).  What a deletion leaves has nothing of the document,
so the same deletion leaves it as it is, to the last entry (`Store.delete_again`).
-/

namespace HybridRetrieval

/-- The identifiers of the items that were taken from a document. -/
def Item.idsOf (docId : String) (items : List Item) : List String :=
  (items.filter fun item => item.node.refDocId = some docId).map Item.id

theorem Item.isOfDocument_eq (docId : String) (item : Item) :
    item.isOfDocument docId = decide (item.node.refDocId = some docId) :=
  beq_eq_decide _ _

namespace Store

/-- What deleting a document leaves of the rows of some items and of their lexemes. -/
structure Deletes (s : Store) (docId : String) (items : List Item) (db made : Database) : Prop where
  data : made.table? s.names.data = some (.data
    ((items.filter fun item => item.node.refDocId ≠ some docId).map DataRow.ofItem))
  lexemes : s.hybrid = true → ∃ lexemes, db.table? s.names.lexemes = some (.lexemes lexemes) ∧
    made.table? s.names.lexemes =
      some (.lexemes (lexemes.filter fun row => row.nodeId ∉ Item.idsOf docId items))
  others : ∀ name, name ≠ s.names.data → (s.hybrid = true → name ≠ s.names.lexemes) →
    made.table? name = db.table? name
  indexes : made.indexes = db.indexes

variable {s : Store} {db made : Database} {rows : List DataRow} {docId : String}

/-- The rows of a document among those of items, by their identifiers. -/
theorem any_isOfDocument_ofItem (docId : String) (items : List Item) (id : String) :
    (((items.map DataRow.ofItem).filter (isOfDocument docId)).any fun r => r.nodeId == .text id) =
      decide (id ∈ Item.idsOf docId items) := by
  rw [Bool.eq_iff_iff, List.any_eq_true, decide_eq_true_iff, Item.idsOf, List.mem_map]
  constructor
  · rintro ⟨row, hrow, hid⟩
    obtain ⟨hmem, hdoc⟩ := List.mem_filter.mp hrow
    obtain ⟨item, hitem, rfl⟩ := List.mem_map.mp hmem
    rw [DataRow.isOfDocument_ofItem, Item.isOfDocument_eq] at hdoc
    exact ⟨item, List.mem_filter.mpr ⟨hitem, hdoc⟩, Cell.text.inj (beq_iff_eq.mp hid)⟩
  · rintro ⟨item, hitem, rfl⟩
    obtain ⟨hmem, hdoc⟩ := List.mem_filter.mp hitem
    refine ⟨.ofItem item, List.mem_filter.mpr ⟨List.mem_map.mpr ⟨item, hmem, rfl⟩, ?_⟩, ?_⟩
    · rwa [DataRow.isOfDocument_ofItem, Item.isOfDocument_eq]
    · exact beq_iff_eq.mpr rfl

/-- **A deletion succeeds** over the rows of items, and takes away those of the document. -/
theorem delete_of_equipped (h : Equipped s db) {items : List Item}
    (hrows : db.table? s.names.data = some (.data (items.map DataRow.ofItem))) (docId : String) :
    ∃ made, s.delete docId (some db) = .ok (some made) ∧ s.Deletes docId items db made := by
  obtain ⟨made, hwrite, hleaves⟩ := write_of_equipped h hrows (w := .delete docId) trivial
  refine ⟨made, hwrite, ?_, ?_, hleaves.others, hleaves.indexes⟩
  · have hkept : (items.filter fun item => item.node.refDocId ≠ some docId) =
        items.filter fun item => !item.isOfDocument docId := by
      apply List.filter_congr
      intro item _
      rw [Item.isOfDocument_eq, decide_not]
    rw [hleaves.data, Write.rowsAfter, DataRow.filter_ofItem, hkept]
  · intro hhybrid
    obtain ⟨lexemes, hlexemes⟩ := h.index hhybrid
    refine ⟨lexemes, hlexemes, ?_⟩
    rw [hleaves.index hhybrid lexemes hlexemes, Write.lexemesAfter]
    congr 2
    apply List.filter_congr
    intro row _
    rw [any_isOfDocument_ofItem, decide_not]

/-! ## Deleting again -/

/-- A table that is put where it is changes nothing. -/
theorem put_eq_self {name : String} {table : Table} (h : Entries.Agree db.tables name table) :
    db.put name table = db := by
  ext1
  · exact h.put_eq
  · rfl

/-- Where there are no rows of the document, and the tables agree with what is found in them, a
deletion changes nothing. -/
theorem delete_of_agree {lexemes : List LexemeRow}
    (hdata : Entries.Agree db.tables s.names.data (.data rows))
    (hlexemes : s.hybrid = true → Entries.Agree db.tables s.names.lexemes (.lexemes lexemes))
    (hnone : ∀ row ∈ rows, isOfDocument docId row = false) :
    s.delete docId (some db) = .ok (some db) := by
  have hrows : db.dataRows s.names.data = .ok rows := Database.dataRows_eq_ok hdata.found
  have hremoved : rows.filter (isOfDocument docId) = [] :=
    List.filter_eq_nil_iff.mpr fun row hrow => by simp [hnone row hrow]
  have hkept : (rows.filter fun row => !isOfDocument docId row) = rows :=
    List.filter_eq_self.mpr fun row hrow => by simp [hnone row hrow]
  have hchange : s.changeLexemes (fun lexemes => lexemes.filter fun row =>
      !(rows.filter (isOfDocument docId)).any fun r => r.nodeId == .text row.nodeId) db =
        .ok db := by
    unfold changeLexemes
    split
    · rename_i hhybrid
      rw [Database.lexemeRows_eq_ok (hlexemes hhybrid).found]
      simp [hremoved, put_eq_self (hlexemes hhybrid), bind, Except.bind, pure, Except.pure]
    · rfl
  simp only [delete, Connection.database, hrows, hchange, hkept, put_eq_self hdata, bind,
    Except.bind, pure, Except.pure]

/-- **Deleting again** changes nothing. -/
theorem delete_again (haccepted : s.names.Accepted)
    (h : s.delete docId (some db) = .ok (some made)) :
    s.delete docId (some made) = .ok (some made) := by
  obtain ⟨_, hopen, h⟩ := bind_eq_ok_iff.mp h
  obtain rfl := Except.ok.inj hopen
  obtain ⟨rows, -, h⟩ := bind_eq_ok_iff.mp h
  obtain ⟨mid, hchange, h⟩ := bind_eq_ok_iff.mp h
  obtain rfl := Option.some.inj (Except.ok.inj h)
  have hgone : ∀ row ∈ rows.filter fun row => !isOfDocument docId row,
      isOfDocument docId row = false := by
    intro row hrow
    simpa using (List.mem_filter.mp hrow).2
  have hne := TableNames.lexemes_ne_data haccepted
  unfold changeLexemes at hchange
  split at hchange
  · obtain ⟨lexemes, -, hput⟩ := bind_eq_ok_iff.mp hchange
    obtain rfl := Except.ok.inj hput
    exact delete_of_agree (Entries.agree_put _ _ _)
      (fun _ => (Entries.agree_put _ _ _).put_of_ne hne) hgone
  · rename_i hplain
    obtain rfl := Except.ok.inj hchange
    have hlexemes : s.hybrid = true → Entries.Agree
        (Entries.put db.tables s.names.data (.data (rows.filter fun row =>
          !isOfDocument docId row))) s.names.lexemes (.lexemes []) :=
      fun hhybrid => absurd hhybrid hplain
    exact delete_of_agree (Entries.agree_put _ _ _) hlexemes hgone

end Store

end HybridRetrieval
