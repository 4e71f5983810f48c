import HybridRetrieval.Proofs.Store.Upserts
/-!
# Writes one after the other

What several writes leave is said as for one, by what they make of the data rows and of the lexeme
rows (`Store.LeavesEach`, `Store.writeEach_of_equipped`).  So two sequences of writes leave the same
tables if they make the same of both (`Store.LeavesEach.same`), and the question whether writes
commute is one about lists of rows.

A deletion keeps what does not satisfy a condition.  An addition passes through such a condition if
all rows that it puts or replaces are kept (`filter_rowsAfter_of_pos`, `filter_foldl_of_pos`), and
is undone by it if none of them is (`filter_rowsAfter_of_neg`, `filter_foldl_of_neg`); in both cases
the step is one item.
-/

namespace HybridRetrieval

open Store (lexemeRowsOf replaceLexemes isOfDocument)

/-! ## Sequences of writes -/

/-- The databases have the same tables under each name, and the same indexes. -/
structure Database.Same (x y : Database) : Prop where
  tables : ∀ name, x.table? name = y.table? name
  indexes : x.indexes = y.indexes

namespace Write

/-- What writes make of data rows, one after the other. -/
def rowsAfterEach (ws : List Write) (rows : List DataRow) : List DataRow :=
  ws.foldl (fun rows w => w.rowsAfter rows) rows

/-- What writes make of lexeme rows, one after the other, beside the data rows. -/
def lexemesAfterEach (a : Analyzer) : List Write → List DataRow → List LexemeRow → List LexemeRow
  | [], _, lexemes => lexemes
  | w :: rest, rows, lexemes =>
    lexemesAfterEach a rest (w.rowsAfter rows) (w.lexemesAfter a rows lexemes)

end Write

namespace Store

/-- Carries out writes one after the other. -/
def writeEach (s : Store) : List Write → Connection → Except Error Connection
  | [], c => .ok c
  | w :: rest, c => do
    let c ← s.write w c
    s.writeEach rest c

/-- What writes leave one after the other. -/
structure LeavesEach (s : Store) (ws : List Write) (rows : List DataRow) (db made : Database) :
    Prop where
  data : made.table? s.names.data = some (.data (Write.rowsAfterEach ws rows))
  index : s.hybrid = true → ∀ lexemes, db.table? s.names.lexemes = some (.lexemes lexemes) →
    made.table? s.names.lexemes =
      some (.lexemes (Write.lexemesAfterEach s.params.analyzer ws rows lexemes))
  others : ∀ name, name ≠ s.names.data → (s.hybrid = true → name ≠ s.names.lexemes) →
    made.table? name = db.table? name
  indexes : made.indexes = db.indexes

variable {s : Store} {db made other : Database} {rows : List DataRow} {ws vs : List Write}

/-- **Writes of the right lengths succeed** one after the other over the tables of the store. -/
theorem writeEach_of_equipped (ws : List Write) (h : Equipped s db)
    (hrows : db.table? s.names.data = some (.data rows))
    (hfits : ∀ w ∈ ws, w.Fits s.params.embedDim) :
    ∃ made, s.writeEach ws (some db) = .ok (some made) ∧ s.LeavesEach ws rows db made := by
  induction ws generalizing db rows with
  | nil => exact ⟨db, rfl, hrows, fun _ _ hlexemes => hlexemes, fun _ _ _ => rfl, rfl⟩
  | cons w rest ih =>
      obtain ⟨mid, hwrite, hmid⟩ := write_of_equipped h hrows (hfits w List.mem_cons_self)
      obtain ⟨made, hmore, hmade⟩ := ih (h.of_kinds (hmid.keepsKinds h hrows)) hmid.data
        fun v hv => hfits v (List.mem_cons_of_mem _ hv)
      refine ⟨made, ?_, hmade.data, ?_, ?_, hmade.indexes.trans hmid.indexes⟩
      · rw [writeEach, hwrite]
        exact hmore
      · intro hhybrid lexemes hlexemes
        exact hmade.index hhybrid _ (hmid.index hhybrid lexemes hlexemes)
      · intro name hdata hindex
        exact (hmade.others name hdata hindex).trans (hmid.others name hdata hindex)

/-- **Writes that make the same of both kinds of rows** leave the same tables. -/
theorem LeavesEach.same (hequipped : Equipped s db) (h : s.LeavesEach ws rows db made)
    (h' : s.LeavesEach vs rows db other)
    (hrows : Write.rowsAfterEach ws rows = Write.rowsAfterEach vs rows)
    (hlexemes : s.hybrid = true → ∀ lexemes, db.table? s.names.lexemes = some (.lexemes lexemes) →
      Write.lexemesAfterEach s.params.analyzer ws rows lexemes =
        Write.lexemesAfterEach s.params.analyzer vs rows lexemes) : made.Same other where
  tables name := by
    by_cases hdata : name = s.names.data
    · rw [hdata, h.data, h'.data, hrows]
    · by_cases hindex : s.hybrid = true ∧ name = s.names.lexemes
      · obtain ⟨hhybrid, rfl⟩ := hindex
        obtain ⟨lexemes, hfound⟩ := hequipped.index hhybrid
        rw [h.index hhybrid lexemes hfound, h'.index hhybrid lexemes hfound,
          hlexemes hhybrid lexemes hfound]
      · have hother : s.hybrid = true → name ≠ s.names.lexemes := fun hhybrid heq =>
          hindex ⟨hhybrid, heq⟩
        rw [h.others name hdata hother, h'.others name hdata hother]
  indexes := h.indexes.trans h'.indexes.symm

end Store

/-! ## Data rows and conditions -/

namespace DataRow

variable {row : DataRow} {rows : List DataRow} {p : DataRow → Bool}

theorem eq_or_mem_of_mem_upsert {other : DataRow} (h : other ∈ upsert row rows) :
    other = row ∨ other ∈ rows := by
  induction rows with
  | nil => exact Or.inl (List.mem_singleton.mp h)
  | cons head rest ih =>
      unfold upsert at h
      split at h
      · exact (List.mem_cons.mp h).imp_right (List.mem_cons_of_mem _)
      · rcases List.mem_cons.mp h with rfl | hrest
        · exact Or.inr List.mem_cons_self
        · exact (ih hrest).imp_right (List.mem_cons_of_mem _)

/-- A row that is kept, and replaces one that is kept, is put as well after the others are gone. -/
theorem filter_upsert_of_pos (hrow : p row = true)
    (hsame : ∀ other ∈ rows, other.nodeId = row.nodeId → p other = true) :
    (upsert row rows).filter p = upsert row (rows.filter p) := by
  induction rows with
  | nil => simp [upsert, hrow]
  | cons head rest ih =>
      have hrest := ih fun other hother => hsame other (List.mem_cons_of_mem _ hother)
      by_cases hhead : head.nodeId = row.nodeId
      · simp [upsert, hhead, hrow, hsame head List.mem_cons_self hhead]
      · rw [upsert, if_neg hhead, List.filter_cons, List.filter_cons, hrest]
        split
        · rw [upsert, if_neg hhead]
        · rfl

/-- A row that is not kept, and replaces none that is, leaves no trace. -/
theorem filter_upsert_of_neg (hrow : p row = false)
    (hsame : ∀ other ∈ rows, other.nodeId = row.nodeId → p other = false) :
    (upsert row rows).filter p = rows.filter p := by
  induction rows with
  | nil => simp [upsert, hrow]
  | cons head rest ih =>
      have hrest := ih fun other hother => hsame other (List.mem_cons_of_mem _ hother)
      by_cases hhead : head.nodeId = row.nodeId
      · simp [upsert, hhead, hrow, hsame head List.mem_cons_self hhead]
      · rw [upsert, if_neg hhead, List.filter_cons, List.filter_cons, hrest]

end DataRow

namespace Write

variable {items : List Item} {rows : List DataRow} {p : DataRow → Bool}

/-- After an addition there are the rows that were there and those of the items. -/
theorem mem_or_of_mem_rowsAfter_add {row : DataRow} (h : row ∈ (add items).rowsAfter rows) :
    row ∈ rows ∨ ∃ item ∈ items, row = .ofItem item := by
  induction items generalizing rows with
  | nil => exact Or.inl h
  | cons item rest ih =>
      rcases ih h with hput | ⟨later, hlater, heq⟩
      · rcases DataRow.eq_or_mem_of_mem_upsert hput with heq | hold
        · exact Or.inr ⟨item, List.mem_cons_self, heq⟩
        · exact Or.inl hold
      · exact Or.inr ⟨later, List.mem_cons_of_mem _ hlater, heq⟩

/-- The rows of the items and those that they replace are all alike for a condition. -/
def Uniform (items : List Item) (rows : List DataRow) (p : DataRow → Bool) (b : Bool) : Prop :=
  ∀ item ∈ items, p (.ofItem item) = b ∧ ∀ row ∈ rows, row.nodeId = .text item.id → p row = b

/-- After the first item has been put, the others are still alike. -/
theorem Uniform.tail {item : Item} {rest : List Item} {b : Bool}
    (h : Uniform (item :: rest) rows p b) :
    Uniform rest (DataRow.upsert (.ofItem item) rows) p b := by
  intro later hlater
  obtain ⟨hown, hreplaced⟩ := h later (List.mem_cons_of_mem _ hlater)
  refine ⟨hown, fun row hrow hid => ?_⟩
  rcases DataRow.eq_or_mem_of_mem_upsert hrow with rfl | hold
  · exact (h item List.mem_cons_self).1
  · exact hreplaced row hold hid

/-- **An addition of kept rows in the place of kept rows** may be made before or after the others
are taken away. -/
theorem filter_rowsAfter_of_pos (h : Uniform items rows p true) :
    ((add items).rowsAfter rows).filter p = (add items).rowsAfter (rows.filter p) := by
  induction items generalizing rows with
  | nil => rfl
  | cons item rest ih =>
      have hrest := ih h.tail
      obtain ⟨hown, hreplaced⟩ := h item List.mem_cons_self
      rw [DataRow.filter_upsert_of_pos hown hreplaced] at hrest
      exact hrest

/-- **An addition of rows that are taken away**, in the place of no others, leaves no trace. -/
theorem filter_rowsAfter_of_neg (h : Uniform items rows p false) :
    ((add items).rowsAfter rows).filter p = rows.filter p := by
  induction items generalizing rows with
  | nil => rfl
  | cons item rest ih =>
      have hrest := ih h.tail
      obtain ⟨hown, hreplaced⟩ := h item List.mem_cons_self
      rw [DataRow.filter_upsert_of_neg hown hreplaced] at hrest
      exact hrest

/-! ## Lexeme rows and conditions -/

variable {a : Analyzer} {lexemes : List LexemeRow} {keep : LexemeRow → Bool}

/-- Lexeme rows of a node that is kept are replaced before or after the others are taken away. -/
theorem filter_replaceLexemes_of_pos {node : Node}
    (h : ∀ row : LexemeRow, row.nodeId = node.id → keep row = true) :
    (replaceLexemes a node lexemes).filter keep = replaceLexemes a node (lexemes.filter keep) := by
  have hown : (lexemeRowsOf a node.id node.text).filter keep = lexemeRowsOf a node.id node.text :=
    List.filter_eq_self.mpr fun row hrow => h row (LexemeRow.nodeId_of_mem_lexemeRowsOf hrow)
  rw [replaceLexemes, replaceLexemes, List.filter_append, hown, List.filter_filter,
    List.filter_filter]
  congr 1
  exact List.filter_congr fun row _ => Bool.and_comm _ _

/-- Lexeme rows of a node that is taken away leave no trace. -/
theorem filter_replaceLexemes_of_neg {node : Node}
    (h : ∀ row : LexemeRow, row.nodeId = node.id → keep row = false) :
    (replaceLexemes a node lexemes).filter keep = lexemes.filter keep := by
  have hown : (lexemeRowsOf a node.id node.text).filter keep = [] :=
    List.filter_eq_nil_iff.mpr fun row hrow => by
      simp [h row (LexemeRow.nodeId_of_mem_lexemeRowsOf hrow)]
  rw [replaceLexemes, List.filter_append, hown, List.append_nil, List.filter_filter]
  refine List.filter_congr fun row _ => ?_
  by_cases hrow : row.nodeId = node.id
  · simp [h row hrow]
  · simp [hrow]

/-- **The lexeme rows of kept nodes** may be written before or after the others are taken away. -/
theorem filter_foldl_of_pos
    (h : ∀ item ∈ items, ∀ row : LexemeRow, row.nodeId = item.id → keep row = true) :
    (items.foldl (fun lexemes item => replaceLexemes a item.node lexemes) lexemes).filter keep =
      items.foldl (fun lexemes item => replaceLexemes a item.node lexemes)
        (lexemes.filter keep) := by
  induction items generalizing lexemes with
  | nil => rfl
  | cons item rest ih =>
      have hrest := fun later hlater => h later (List.mem_cons_of_mem item hlater)
      rw [List.foldl_cons, List.foldl_cons, ih hrest,
        filter_replaceLexemes_of_pos (h item List.mem_cons_self)]

/-- **The lexeme rows of nodes that are taken away** leave no trace. -/
theorem filter_foldl_of_neg
    (h : ∀ item ∈ items, ∀ row : LexemeRow, row.nodeId = item.id → keep row = false) :
    (items.foldl (fun lexemes item => replaceLexemes a item.node lexemes) lexemes).filter keep =
      lexemes.filter keep := by
  induction items generalizing lexemes with
  | nil => rfl
  | cons item rest ih =>
      have hrest := fun later hlater => h later (List.mem_cons_of_mem item hlater)
      rw [List.foldl_cons, ih hrest, filter_replaceLexemes_of_neg (h item List.mem_cons_self)]

/-! ## Additions and deletions -/

/-- The lexeme rows that a deletion keeps: those of nodes without a row of the document. -/
def keeps (docId : String) (rows : List DataRow) (row : LexemeRow) : Bool :=
  !(rows.filter (isOfDocument docId)).any fun r => r.nodeId == .text row.nodeId

theorem keeps_iff {docId : String} {row : LexemeRow} :
    keeps docId rows row = true ↔
      ∀ r ∈ rows, r.nodeId = .text row.nodeId → isOfDocument docId r = false := by
  simp only [keeps, Bool.not_eq_true', List.any_eq_false, List.mem_filter, beq_iff_eq, and_imp]
  refine forall₂_congr fun r _ => ?_
  rw [← Bool.not_eq_true]
  exact ⟨fun h hid hdoc => h hdoc hid, fun h hdoc hid => h hid hdoc⟩

/-- A deletion is unconcerned by items: none is of the document, and none replaces a row of it. -/
def Unconcerned (docId : String) (items : List Item) (rows : List DataRow) : Prop :=
  ∀ item ∈ items, item.node.refDocId ≠ some docId ∧
    ∀ row ∈ rows, row.nodeId = .text item.id → isOfDocument docId row = false

theorem Unconcerned.uniform {docId : String} (h : Unconcerned docId items rows) :
    Uniform items rows (isOfDocument docId) false := by
  intro item hitem
  obtain ⟨hown, hreplaced⟩ := h item hitem
  refine ⟨?_, hreplaced⟩
  rw [DataRow.isOfDocument_ofItem, Item.isOfDocument, beq_eq_false_iff_ne]
  exact hown

/-- **An addition and the deletion of a document that it does not concern** commute on the data
rows. -/
theorem rowsAfter_add_delete {docId : String} (h : Unconcerned docId items rows) :
    rowsAfterEach [add items, delete docId] rows =
      rowsAfterEach [delete docId, add items] rows := by
  refine filter_rowsAfter_of_pos fun item hitem => ?_
  obtain ⟨hown, hreplaced⟩ := h.uniform item hitem
  exact ⟨by rw [hown]; rfl, fun row hrow hid => by rw [hreplaced row hrow hid]; rfl⟩

/-- **An addition and the deletion of a document that it does not concern** commute on the lexeme
rows. -/
theorem lexemesAfter_add_delete {docId : String} (h : Unconcerned docId items rows) :
    lexemesAfterEach a [add items, delete docId] rows lexemes =
      lexemesAfterEach a [delete docId, add items] rows lexemes := by
  show (List.foldl _ lexemes items).filter (keeps docId ((add items).rowsAfter rows)) =
    List.foldl _ (lexemes.filter (keeps docId rows)) items
  have hsame : keeps docId ((add items).rowsAfter rows) = keeps docId rows := by
    funext row
    rw [keeps, keeps, filter_rowsAfter_of_neg h.uniform]
  rw [hsame]
  refine filter_foldl_of_pos fun item hitem row hrow => ?_
  rw [keeps_iff, hrow]
  exact (h item hitem).2

/-- **Deletions commute** on the data rows. -/
theorem rowsAfter_delete_delete (d e : String) (rows : List DataRow) :
    rowsAfterEach [delete d, delete e] rows = rowsAfterEach [delete e, delete d] rows := by
  show ((rows.filter _).filter _) = ((rows.filter _).filter _)
  rw [List.filter_filter, List.filter_filter]
  exact List.filter_congr fun row _ => Bool.and_comm _ _

/-- Deleting one document takes no row of another away. -/
theorem keeps_delete {d e : String} (hne : d ≠ e) (rows : List DataRow) :
    keeps e ((delete d).rowsAfter rows) = keeps e rows := by
  funext row
  rw [keeps, keeps, rowsAfter, List.filter_filter]
  congr 2
  refine List.filter_congr fun r _ => ?_
  by_cases hdoc : isOfDocument e r = true
  · have hother : isOfDocument d r = false := by
      rw [isOfDocument, beq_iff_eq] at hdoc
      rw [isOfDocument, hdoc, beq_eq_false_iff_ne]
      exact fun heq => hne (Cell.text.inj (Option.some.inj heq)).symm
    rw [hother]
    simp
  · simp [hdoc]

/-- **Deletions commute** on the lexeme rows. -/
theorem lexemesAfter_delete_delete (d e : String) (rows : List DataRow) :
    lexemesAfterEach a [delete d, delete e] rows lexemes =
      lexemesAfterEach a [delete e, delete d] rows lexemes := by
  by_cases hne : d = e
  · rw [hne]
  · show (lexemes.filter (keeps d rows)).filter (keeps e ((delete d).rowsAfter rows)) =
      (lexemes.filter (keeps e rows)).filter (keeps d ((delete e).rowsAfter rows))
    rw [keeps_delete hne, keeps_delete (Ne.symm hne), List.filter_filter, List.filter_filter]
    exact List.filter_congr fun row _ => Bool.and_comm _ _

/-! ## Adding a document and deleting it -/

/-- The items are those of a document that is new, under identifiers that are new. -/
structure IsNewDocument (docId : String) (items : List Item) (rows : List DataRow) : Prop where
  source : ∀ item ∈ items, item.node.refDocId = some docId
  ids : ∀ item ∈ items, ∀ row ∈ rows, row.nodeId ≠ .text item.id
  absent : ∀ row ∈ rows, isOfDocument docId row = false

namespace IsNewDocument

variable {docId : String} (h : IsNewDocument docId items rows)
include h

theorem isOfDocument_ofItem {item : Item} (hitem : item ∈ items) :
    isOfDocument docId (.ofItem item) = true := by
  rw [DataRow.isOfDocument_ofItem, Item.isOfDocument, h.source item hitem, beq_self_eq_true]

/-- **Adding a document and deleting it** restores the data rows. -/
theorem rowsAfter : rowsAfterEach [add items, delete docId] rows = rows := by
  have huniform : Uniform items rows (fun row => !isOfDocument docId row) false := by
    intro item hitem
    refine ⟨?_, fun row hrow hid => absurd hid (h.ids item hitem row hrow)⟩
    show (!isOfDocument docId (.ofItem item)) = false
    rw [h.isOfDocument_ofItem hitem, Bool.not_true]
  have hkept : (rows.filter fun row => !isOfDocument docId row) = rows :=
    List.filter_eq_self.mpr fun row hrow => by rw [h.absent row hrow]; rfl
  exact (filter_rowsAfter_of_neg huniform).trans hkept

/-- The deletion takes away the lexeme rows of the new nodes and no others. -/
theorem keeps_eq : keeps docId ((add items).rowsAfter rows) = fun row =>
    decide (row.nodeId ∉ items.map Item.id) := by
  funext row
  rw [Bool.eq_iff_iff, keeps_iff, decide_eq_true_iff]
  constructor
  · intro hkept hmem
    -- under the identifier of an item stands the row of the last one with it
    cases hlast : Item.last? row.nodeId items with
    | none =>
        obtain ⟨item, hitem, hid⟩ := List.mem_map.mp hmem
        exact Item.last?_eq_none_iff.mp hlast item hitem hid
    | some item =>
        have hfirst := first?_add row.nodeId items rows
        rw [hlast, Option.map_some, Option.some_or] at hfirst
        obtain ⟨hitem, hid⟩ := Item.mem_of_last? hlast
        have hdoc := hkept _ (List.mem_of_find?_eq_some hfirst) (congrArg Cell.text hid)
        rw [h.isOfDocument_ofItem hitem] at hdoc
        cases hdoc
  · intro hnew r hr hid
    rcases mem_or_of_mem_rowsAfter_add hr with hold | ⟨item, hitem, rfl⟩
    · exact h.absent r hold
    · have hsame : item.id = row.nodeId := Cell.text.inj hid
      exact absurd (hsame ▸ List.mem_map_of_mem hitem) hnew

/-- **Adding a document and deleting it** leaves the lexeme rows of all other nodes. -/
theorem lexemesAfter : lexemesAfterEach a [add items, delete docId] rows lexemes =
    lexemes.filter fun row => decide (row.nodeId ∉ items.map Item.id) := by
  show (List.foldl _ lexemes items).filter (keeps docId ((add items).rowsAfter rows)) = _
  rw [h.keeps_eq]
  refine filter_foldl_of_neg fun item hitem row hrow => ?_
  rw [decide_eq_false_iff_not, not_not, hrow]
  exact List.mem_map_of_mem hitem

end IsNewDocument

end Write

end HybridRetrieval
