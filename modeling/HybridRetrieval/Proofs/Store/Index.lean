import HybridRetrieval.Proofs.Lexeme.DocumentTerms
import HybridRetrieval.Proofs.Store.Stock
import Mathlib.Algebra.Ring.Nat
import Mathlib.Data.List.Count
import Mathlib.Data.List.Nodup
/-!
# The lexeme index, node by node

The rows of an index are looked at one node at a time (`LexemeRow.ofNode`): two indexes hold the
same rows exactly when they do so for every node (`perm_iff_ofNode`).  An index *covers* a stock if
for every node it holds the rows of the stored text, made by the analyzer that a given function
names for the node, and nothing for a node that is not stored (`Covers`).

What a write does to an index is said in the same way (`ofNode_reindex`): for a node that it touches
the rows become the due ones, for every other node they stay.  So a write that keeps the index keeps
it covering (`Covers.write`).
-/

namespace HybridRetrieval

open Store (lexemeRowsOf replaceLexemes)

namespace LexemeRow

/-- The rows of one node. -/
def ofNode (id : String) (rows : List LexemeRow) : List LexemeRow :=
  rows.filter fun row => row.nodeId = id

theorem ofNode_append (id : String) (xs ys : List LexemeRow) :
    ofNode id (xs ++ ys) = ofNode id xs ++ ofNode id ys := by
  simp [ofNode]

/-- Rows that all belong to one node. -/
theorem ofNode_of_all {id : String} {rows : List LexemeRow} (other : String)
    (h : ∀ row ∈ rows, row.nodeId = id) :
    ofNode other rows = if id = other then rows else [] := by
  by_cases heq : id = other
  · rw [if_pos heq, ofNode, List.filter_eq_self]
    intro row hrow
    simp [h row hrow, heq]
  · rw [if_neg heq, ofNode, List.filter_eq_nil_iff]
    intro row hrow
    simp [h row hrow, heq]

/-- **Node by node.**  Two indexes hold the same rows if they do so for every node. -/
theorem perm_iff_ofNode {xs ys : List LexemeRow} :
    xs.Perm ys ↔ ∀ id, (ofNode id xs).Perm (ofNode id ys) := by
  constructor
  · intro h id
    exact h.filter _
  · intro h
    rw [List.perm_iff_count]
    intro row
    have hcount := (h row.nodeId).count_eq row
    rwa [ofNode, ofNode, List.count_filter (by simp), List.count_filter (by simp)] at hcount

/-- The rows of a text belong to its node. -/
theorem nodeId_of_mem_lexemeRowsOf {a : Analyzer} {id text : String} {row : LexemeRow}
    (h : row ∈ lexemeRowsOf a id text) : row.nodeId = id := by
  obtain ⟨term, -, rfl⟩ := List.mem_map.mp h
  rfl

theorem ofNode_lexemeRowsOf (a : Analyzer) (id text other : String) :
    ofNode other (lexemeRowsOf a id text) = if id = other then lexemeRowsOf a id text else [] :=
  ofNode_of_all other fun _ h => nodeId_of_mem_lexemeRowsOf h

/-- Replacing the text of a node gives it the rows of the new text. -/
theorem ofNode_replaceLexemes (a : Analyzer) (node : Node) (rows : List LexemeRow) (id : String) :
    ofNode id (replaceLexemes a node rows) =
      if node.id = id then lexemeRowsOf a id node.text else ofNode id rows := by
  rw [replaceLexemes, ofNode_append, ofNode_lexemeRowsOf, ofNode, List.filter_filter]
  by_cases h : node.id = id
  · subst h
    simp
  · rw [if_neg h, if_neg h, List.append_nil, ofNode]
    apply List.filter_congr
    intro row _
    by_cases hrow : row.nodeId = id
    · simp [hrow, Ne.symm h]
    · simp [hrow]

end LexemeRow

open LexemeRow (ofNode)

/-- What the index ought to hold for a node of a stock. -/
def dueRows (analyzerOf : String → Analyzer) (items : List Item) (id : String) : List LexemeRow :=
  match Item.stored? id items with
  | some item => lexemeRowsOf (analyzerOf id) id item.node.text
  | none => []

/-- The index holds for each node the rows of its stored text, made by the node's analyzer. -/
def Covers (analyzerOf : String → Analyzer) (items : List Item) (rows : List LexemeRow) : Prop :=
  ∀ id, ofNode id rows = dueRows analyzerOf items id

namespace Write

/-- The stock after a write. -/
def applyTo (items : List Item) : Write → List Item
  | add new => new.foldl (fun items item => Item.upsert item items) items
  | delete docId => items.filter fun item => !item.isOfDocument docId

/-- The index after a write that keeps it. -/
def reindex (a : Analyzer) (items : List Item) (rows : List LexemeRow) : Write → List LexemeRow
  | add new => new.foldl (fun rows item => replaceLexemes a item.node rows) rows
  | delete docId =>
    rows.filter fun row => !items.any fun item => item.isOfDocument docId && item.id == row.nodeId

/-- What the index ought to hold after a write for a node that the write touches. -/
def due? (a : Analyzer) (items : List Item) (id : String) : Write → Option (List LexemeRow)
  | add new => (Item.last? id new).map fun item => lexemeRowsOf a id item.node.text
  | delete docId =>
    (Item.stored? id items).bind fun item => if item.isOfDocument docId then some [] else none

/-- The analyzers of the nodes after a write that keeps the index. -/
def analyzersAfter (a : Analyzer) (analyzerOf : String → Analyzer) : Write → String → Analyzer
  | add new => fun id => if (Item.last? id new).isSome then a else analyzerOf id
  | delete _ => analyzerOf

/-- As long as the analyzer stays the same, it is that of every node. -/
theorem analyzersAfter_const (a : Analyzer) (w : Write) :
    w.analyzersAfter a (fun _ => a) = fun _ => a := by
  cases w <;> simp [analyzersAfter]

/-- An addition leaves under each identifier the last item given for it. -/
theorem stored?_foldl_upsert (id : String) (new items : List Item) :
    Item.stored? id (new.foldl (fun items item => Item.upsert item items) items) =
      (Item.last? id new).or (Item.stored? id items) := by
  induction new generalizing items with
  | nil => simp [Item.last?]
  | cons item rest ih =>
      rw [List.foldl_cons, ih, Item.stored?_upsert, Item.last?, Option.or_assoc]
      by_cases h : item.id = id <;> simp [h]

theorem nodup_foldl_upsert {new items : List Item} (h : (items.map Item.id).Nodup) :
    ((new.foldl (fun items item => Item.upsert item items) items).map Item.id).Nodup := by
  induction new generalizing items with
  | nil => exact h
  | cons item rest ih => exact ih (Item.nodup_upsert h)

/-- A write keeps the identifiers of a stock distinct. -/
theorem nodup_applyTo {items : List Item} (w : Write) (h : (items.map Item.id).Nodup) :
    ((w.applyTo items).map Item.id).Nodup := by
  cases w with
  | add new => exact nodup_foldl_upsert h
  | delete docId => exact h.sublist (List.filter_sublist.map _)

/-- A deletion leaves what was found and is not of the document. -/
theorem stored?_delete {items : List Item} (docId id : String)
    (h : (items.map Item.id).Nodup) :
    Item.stored? id ((delete docId).applyTo items) =
      (Item.stored? id items).filter fun item => !item.isOfDocument docId := by
  have hafter := nodup_applyTo (delete docId) h
  ext item
  rw [Item.stored?_eq_some_iff hafter, Option.filter_eq_some_iff, Item.stored?_eq_some_iff h,
    applyTo, List.mem_filter]
  tauto

/-- The rows of a node after the index was kept through an addition. -/
theorem ofNode_foldl_replaceLexemes (a : Analyzer) (id : String) (new : List Item)
    (rows : List LexemeRow) :
    ofNode id (new.foldl (fun rows item => replaceLexemes a item.node rows) rows) =
      ((Item.last? id new).map fun item => lexemeRowsOf a id item.node.text).getD
        (ofNode id rows) := by
  induction new generalizing rows with
  | nil => rfl
  | cons item rest ih =>
      rw [List.foldl_cons, ih, LexemeRow.ofNode_replaceLexemes, Item.last?]
      cases Item.last? id rest with
      | some later => rfl
      | none =>
          by_cases h : item.id = id
          · rw [if_pos (show item.node.id = id from h), if_pos h]
            rfl
          · rw [if_neg (show ¬ item.node.id = id from h), if_neg h]
            rfl

/-- **What a write does to an index.**  A node that it touches gets its due rows, any other node
keeps its own. -/
theorem ofNode_reindex (a : Analyzer) {items : List Item} (h : (items.map Item.id).Nodup)
    (rows : List LexemeRow) (w : Write) (id : String) :
    ofNode id (w.reindex a items rows) = (w.due? a items id).getD (ofNode id rows) := by
  cases w with
  | add new => exact ofNode_foldl_replaceLexemes a id new rows
  | delete docId =>
      rw [reindex, due?, ofNode, List.filter_filter]
      by_cases hgone : ∃ item ∈ items, item.isOfDocument docId ∧ item.id = id
      · obtain ⟨item, hmem, hdoc, hid⟩ := hgone
        rw [(Item.stored?_eq_some_iff h).mpr ⟨hmem, hid⟩, Option.bind_some, if_pos hdoc,
          Option.getD_some, List.filter_eq_nil_iff]
        intro row _ hrow
        simp only [Bool.and_eq_true, decide_eq_true_eq, Bool.not_eq_true',
          List.any_eq_false] at hrow
        exact hrow.2 item hmem (by simp [hdoc, hid, hrow.1])
      · have hdue : (Item.stored? id items).bind
            (fun item => if item.isOfDocument docId then some ([] : List LexemeRow) else none) =
            none := by
          rw [Option.bind_eq_none_iff]
          intro item hitem
          obtain ⟨hmem, hid⟩ := (Item.stored?_eq_some_iff h).mp hitem
          exact if_neg fun hdoc => hgone ⟨item, hmem, hdoc, hid⟩
        rw [hdue, Option.getD_none, ofNode]
        apply List.filter_congr
        intro row _
        by_cases hrow : row.nodeId = id
        · have hkept : (items.any fun item =>
              item.isOfDocument docId && item.id == row.nodeId) = false := by
            rw [List.any_eq_false]
            intro item hmem hboth
            simp only [Bool.and_eq_true, beq_iff_eq] at hboth
            exact hgone ⟨item, hmem, hboth.1, hboth.2.trans hrow⟩
          rw [hkept]
          simp [hrow]
        · simp [hrow]

end Write

/-- **A write that keeps the index keeps it covering**, with its own analyzer for what it adds. -/
theorem Covers.write {analyzerOf : String → Analyzer} {items : List Item} {rows : List LexemeRow}
    (h : Covers analyzerOf items rows) (hdistinct : (items.map Item.id).Nodup) (a : Analyzer)
    (w : Write) :
    Covers (w.analyzersAfter a analyzerOf) (w.applyTo items) (w.reindex a items rows) := by
  intro id
  rw [Write.ofNode_reindex a hdistinct, h id]
  cases w with
  | add new =>
      unfold dueRows Write.due? Write.analyzersAfter
      rw [Write.applyTo, Write.stored?_foldl_upsert]
      cases hlast : Item.last? id new with
      | some item => simp [hlast]
      | none => simp [hlast]
  | delete docId =>
      unfold dueRows Write.due? Write.analyzersAfter
      rw [Write.stored?_delete docId id hdistinct]
      cases Item.stored? id items with
      | none => rfl
      | some item => by_cases hdoc : item.isOfDocument docId <;> simp [hdoc, Option.filter]

/-! ## An index as a whole -/

/-- The rows of a stock, item after item. -/
def stockRows (analyzerOf : String → Analyzer) (items : List Item) : List LexemeRow :=
  items.flatMap fun item => lexemeRowsOf (analyzerOf item.id) item.id item.node.text

/-- The rows of a stock, written item after item, cover it. -/
theorem covers_stockRows (analyzerOf : String → Analyzer) {items : List Item}
    (h : (items.map Item.id).Nodup) : Covers analyzerOf items (stockRows analyzerOf items) := by
  intro id
  induction items with
  | nil => rfl
  | cons item rest ih =>
      rw [List.map_cons, List.nodup_cons] at h
      have hrest := ih h.2
      rw [stockRows, List.flatMap_cons, LexemeRow.ofNode_append, LexemeRow.ofNode_lexemeRowsOf]
      rw [stockRows] at hrest
      rw [hrest, dueRows, dueRows, Item.stored?_cons]
      by_cases hid : item.id = id
      · have hnone : Item.stored? id rest = none := by
          rw [Option.eq_none_iff_forall_ne_some]
          intro other hother
          obtain ⟨hmem, hsame⟩ := (Item.stored?_eq_some_iff h.2).mp hother
          exact h.1 (List.mem_map.mpr ⟨other, hmem, hsame.trans hid.symm⟩)
        rw [if_pos hid, if_pos hid, hnone, hid]
        exact List.append_nil _
      · rw [if_neg hid, if_neg hid, List.nil_append]

namespace Covers

variable {analyzerOf : String → Analyzer} {items : List Item} {rows : List LexemeRow}

/-- A covering index holds the rows of the stock and nothing else. -/
theorem perm (h : Covers analyzerOf items rows) (hdistinct : (items.map Item.id).Nodup) :
    rows.Perm (stockRows analyzerOf items) := by
  rw [LexemeRow.perm_iff_ofNode]
  intro id
  rw [h id, covers_stockRows analyzerOf hdistinct id]

/-- A row stands in a covering index for each term of a stored text, and for nothing else. -/
theorem mem_iff (h : Covers analyzerOf items rows) (hdistinct : (items.map Item.id).Nodup)
    {row : LexemeRow} :
    row ∈ rows ↔ ∃ item ∈ items, item.id = row.nodeId ∧
      ((analyzerOf item.id).documentTerms item.node.text).lookup row.lexeme =
        some row.frequency := by
  rw [(h.perm hdistinct).mem_iff, stockRows, List.mem_flatMap]
  constructor
  · rintro ⟨item, hitem, hrow⟩
    obtain ⟨term, hterm, rfl⟩ := List.mem_map.mp hrow
    exact ⟨item, hitem, rfl, Analyzer.lookup_documentTerms.mpr hterm⟩
  · rintro ⟨item, hitem, hid, hterm⟩
    refine ⟨item, hitem, List.mem_map.mpr ⟨_, Analyzer.lookup_documentTerms.mp hterm, ?_⟩⟩
    rw [hid]

/-- No node has two rows for one lexeme. -/
theorem nodup_keys (h : Covers analyzerOf items rows) (hdistinct : (items.map Item.id).Nodup) :
    (rows.map fun row => (row.nodeId, row.lexeme)).Nodup := by
  rw [((h.perm hdistinct).map _).nodup_iff, stockRows, List.map_flatMap, List.nodup_flatMap]
  constructor
  · intro item _
    have hterms := Analyzer.nodup_keys_documentTerms (analyzerOf item.id) item.node.text
    simpa [lexemeRowsOf, Function.comp_def] using
      hterms.map (fun x y (hxy : (item.id, x) = (item.id, y)) => (Prod.mk.inj hxy).2)
  · refine (List.pairwise_map.mp hdistinct).imp ?_
    intro a b hne key ha hb
    obtain ⟨row, hrow, rfl⟩ := List.mem_map.mp ha
    obtain ⟨row', hrow', hkey⟩ := List.mem_map.mp hb
    have hida := LexemeRow.nodeId_of_mem_lexemeRowsOf hrow
    have hidb := LexemeRow.nodeId_of_mem_lexemeRowsOf hrow'
    exact hne (hida.symm.trans ((Prod.mk.inj hkey).1.symm.trans hidb))

/-- The size of a covering index: the distinct lexemes of all stored texts. -/
theorem length_eq (h : Covers analyzerOf items rows) (hdistinct : (items.map Item.id).Nodup) :
    rows.length =
      (items.map fun item => ((analyzerOf item.id).lexemes item.node.text).dedup.length).sum := by
  rw [(h.perm hdistinct).length_eq, stockRows, List.length_flatMap]
  congr 1
  apply List.map_congr_left
  intro item _
  rw [lexemeRowsOf, List.length_map, Analyzer.length_documentTerms]

end Covers

/-- Filling an index from the rows of a stock never fails and makes the rows of the stock. -/
theorem lexemeRowsOfRows_ofItem (a : Analyzer) (items : List Item) :
    Store.lexemeRowsOfRows a (items.map DataRow.ofItem) = .ok (stockRows (fun _ => a) items) := by
  induction items with
  | nil => rfl
  | cons item rest ih =>
      rw [List.map_cons, Store.lexemeRowsOfRows, ih]
      rfl

end HybridRetrieval
