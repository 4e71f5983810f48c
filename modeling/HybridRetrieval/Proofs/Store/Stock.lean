import HybridRetrieval.Proofs.Database.Names
import HybridRetrieval.Proofs.Database.Tables
import HybridRetrieval.Store.Write
/-!
# What a table holds

As long as nobody edits cells, the data rows of a logical table are the rows of a list of items with
distinct identifiers: its *stock*.  Writing acts on the stock as on a plain list (`Write.applyTo`),
and this module carries each writing function of a store over to it:

* `upsert_ofItem`: an added item takes the place of the one with its identifier, or the last place;
* `filter_ofItem`: a deleted document takes its items away.

The stock is looked at through `stored?`, which finds the item with an identifier.
-/

namespace HybridRetrieval

namespace Item

/-- An item with a text and nothing else. -/
def ofText (id text : String) : Item := ⟨⟨id, text, .empty, {}⟩, []⟩

/-- An item with an embedding and no text. -/
def ofEmbedding (id : String) (embedding : List Single) : Item :=
  ⟨{ id := id, text := "" }, embedding⟩

/-- An item with a text, taken from a document. -/
def ofDocument (id text docId : String) : Item :=
  ⟨({ id := id, text := text } : Node).withSource docId, []⟩

/-- Puts an item in the place of the one with its identifier, or else at the end. -/
def upsert (item : Item) : List Item → List Item
  | [] => [item]
  | other :: rest => if other.id = item.id then item :: rest else other :: upsert item rest

/-- The item with an identifier. -/
def stored? (id : String) (items : List Item) : Option Item := items.find? fun item => item.id = id

/-- The last of the items with an identifier. -/
def last? (id : String) : List Item → Option Item
  | [] => none
  | item :: rest => (last? id rest).or (if item.id = id then some item else none)

/-- Whether an item was taken from a document. -/
def isOfDocument (docId : String) (item : Item) : Bool := item.node.refDocId == some docId

theorem stored?_cons (id : String) (item : Item) (rest : List Item) :
    stored? id (item :: rest) = if item.id = id then some item else stored? id rest := by
  by_cases h : item.id = id <;> simp [stored?, h]

/-- Among distinct identifiers, finding is membership. -/
theorem stored?_eq_some_iff {id : String} {items : List Item} {item : Item}
    (hdistinct : (items.map Item.id).Nodup) :
    stored? id items = some item ↔ item ∈ items ∧ item.id = id := by
  induction items with
  | nil => simp [stored?]
  | cons first rest ih =>
      rw [List.map_cons, List.nodup_cons] at hdistinct
      rw [stored?_cons]
      by_cases h : first.id = id
      · rw [if_pos h]
        constructor
        · rintro heq
          obtain rfl := Option.some.inj heq
          exact ⟨List.mem_cons_self, h⟩
        · rintro ⟨hmem, hid⟩
          rcases List.mem_cons.mp hmem with rfl | hmem
          · rfl
          · exact absurd (List.mem_map.mpr ⟨item, hmem, hid.trans h.symm⟩) hdistinct.1
      · rw [if_neg h, ih hdistinct.2]
        constructor
        · rintro ⟨hmem, hid⟩
          exact ⟨List.mem_cons_of_mem _ hmem, hid⟩
        · rintro ⟨hmem, hid⟩
          rcases List.mem_cons.mp hmem with rfl | hmem
          · exact absurd hid h
          · exact ⟨hmem, hid⟩

/-- The last item with an identifier is one of the items. -/
theorem mem_of_last? {id : String} {items : List Item} {item : Item}
    (h : last? id items = some item) : item ∈ items ∧ item.id = id := by
  induction items with
  | nil => cases h
  | cons first rest ih =>
      rw [last?] at h
      rcases Option.or_eq_some_iff.mp h with hrest | ⟨-, hfirst⟩
      · exact ⟨List.mem_cons_of_mem _ (ih hrest).1, (ih hrest).2⟩
      · split at hfirst
        · obtain rfl := Option.some.inj hfirst
          exact ⟨List.mem_cons_self, ‹_›⟩
        · cases hfirst

/-- There is no last item with an identifier that no item has. -/
theorem last?_eq_none_iff {id : String} {items : List Item} :
    last? id items = none ↔ ∀ item ∈ items, item.id ≠ id := by
  induction items with
  | nil => simp [last?]
  | cons first rest ih =>
      rw [last?, Option.or_eq_none_iff, ih, List.forall_mem_cons, and_comm]
      simp

/-- An added item is found under its identifier, and nothing else changes. -/
theorem stored?_upsert (id : String) (item : Item) (items : List Item) :
    stored? id (upsert item items) = if item.id = id then some item else stored? id items := by
  induction items with
  | nil => simp [upsert, stored?_cons]
  | cons other rest ih =>
      unfold upsert
      by_cases hother : other.id = item.id
      · rw [if_pos hother, stored?_cons, stored?_cons]
        by_cases hid : item.id = id
        · simp [hid]
        · rw [if_neg hid, if_neg hid, if_neg (hother ▸ hid)]
      · rw [if_neg hother, stored?_cons, stored?_cons, ih]
        by_cases hid : other.id = id
        · have hne : item.id ≠ id := fun h => hother (hid.trans h.symm)
          simp [hid, hne]
        · simp [hid]

/-- The identifiers after an addition: the old ones, and the new one if it was not there. -/
theorem map_id_upsert (item : Item) (items : List Item) :
    (upsert item items).map Item.id =
      if item.id ∈ items.map Item.id then items.map Item.id
      else items.map Item.id ++ [item.id] := by
  induction items with
  | nil => simp [upsert]
  | cons other rest ih =>
      unfold upsert
      by_cases hother : other.id = item.id
      · simp [hother]
      · have hne : item.id ≠ other.id := Ne.symm hother
        rw [if_neg hother, List.map_cons, ih]
        by_cases hmem : item.id ∈ rest.map Item.id
        · rw [if_pos hmem, if_pos (by simpa [hne] using hmem), List.map_cons]
        · rw [if_neg hmem, if_neg (by simpa [hne] using hmem)]
          rfl

/-- Identifiers stay distinct. -/
theorem nodup_upsert {item : Item} {items : List Item} (h : (items.map Item.id).Nodup) :
    ((upsert item items).map Item.id).Nodup := by
  rw [map_id_upsert]
  by_cases hmem : item.id ∈ items.map Item.id
  · rwa [if_pos hmem]
  · rw [if_neg hmem, List.nodup_append]
    refine ⟨h, by simp, ?_⟩
    intro x hx y hy
    obtain rfl := List.mem_singleton.mp hy
    exact fun heq => hmem (heq ▸ hx)

end Item

namespace DataRow

/-- Rows of items are told apart by the identifiers of the items. -/
theorem ofItem_nodeId_eq {a b : Item} : (ofItem a).nodeId = (ofItem b).nodeId ↔ a.id = b.id := by
  simp [ofItem, Item.id]

/-- Items with the same rows have the same identifiers. -/
theorem map_id_eq_of_map_ofItem {items others : List Item}
    (h : items.map ofItem = others.map ofItem) : items.map Item.id = others.map Item.id := by
  have hids := congrArg (List.map nodeId) h
  rw [List.map_map, List.map_map] at hids
  have hcells : (items.map Item.id).map Cell.text = (others.map Item.id).map Cell.text := by
    rw [List.map_map, List.map_map]
    exact hids
  exact List.map_injective_iff.mpr (fun _ _ => Cell.text.inj) hcells

/-- Under an identifier the row of the item with it is found. -/
theorem find?_ofItem (id : String) (items : List Item) :
    (items.map ofItem).find? (fun row => row.nodeId = .text id) =
      (Item.stored? id items).map ofItem := by
  have hsame : ∀ item : Item, decide ((ofItem item).nodeId = .text id) = decide (item.id = id) :=
    fun item => decide_eq_decide.mpr ⟨Cell.text.inj, congrArg Cell.text⟩
  rw [List.find?_map]
  simp only [Function.comp_def, hsame]
  rfl

/-- Adding a row to the rows of a stock adds its item to the stock. -/
theorem upsert_ofItem (item : Item) (items : List Item) :
    upsert (ofItem item) (items.map ofItem) = (Item.upsert item items).map ofItem := by
  induction items with
  | nil => rfl
  | cons other rest ih =>
      rw [List.map_cons, upsert, Item.upsert]
      by_cases h : other.id = item.id
      · rw [if_pos (ofItem_nodeId_eq.mpr h), if_pos h, List.map_cons]
      · rw [if_neg (fun heq => h (ofItem_nodeId_eq.mp heq)), if_neg h, List.map_cons, ih]

theorem foldl_upsert_ofItem (new items : List Item) :
    new.foldl (fun rows item => upsert (ofItem item) rows) (items.map ofItem) =
      (new.foldl (fun items item => Item.upsert item items) items).map ofItem := by
  induction new generalizing items with
  | nil => rfl
  | cons item rest ih => rw [List.foldl_cons, List.foldl_cons, upsert_ofItem, ih]

/-- The row of an item belongs to the document of the item. -/
theorem isOfDocument_ofItem (docId : String) (item : Item) :
    Store.isOfDocument docId (ofItem item) = item.isOfDocument docId := by
  rw [Bool.eq_iff_iff]
  cases h : item.node.refDocId with
  | none => simp [Store.isOfDocument, Item.isOfDocument, ofItem, h]
  | some source => simp [Store.isOfDocument, Item.isOfDocument, ofItem, h]

/-- Taking the rows of a document away takes its items out of the stock. -/
theorem filter_ofItem (docId : String) (items : List Item) :
    (items.map ofItem).filter (fun row => !Store.isOfDocument docId row) =
      (items.filter fun item => !item.isOfDocument docId).map ofItem := by
  rw [List.filter_map]
  congr 1
  apply List.filter_congr
  intro item _
  simp [isOfDocument_ofItem]

end DataRow

end HybridRetrieval
