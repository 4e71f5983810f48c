import HybridRetrieval.Proofs.Store.Equipped
import HybridRetrieval.Store.Import
/-!
# Many additions

An added item takes the place of the one with its identifier, or the last place.  Over a list of
items that comes to this (`Upserted`): each identifier has the last item that is given for it, what
was there keeps its place, and new identifiers follow in the order in which they first occur.

Adding the items again changes nothing (`DataRow.upsertAll_again`), whatever rows there are, also
rows that are no item's.  A row that is written over later need not have been written
(`DataRow.upsertAll_upsert`), so the last rows decide, and these are there already.

Items are added one after the other, so an addition in chunks leaves what the addition of the whole
list leaves (`Store.addEach_of_equipped`).
-/

namespace HybridRetrieval

/-! ## Items -/

/-- What the addition of items makes of a stock. -/
structure Upserted (new items after : List Item) : Prop where
  last : ∀ id item, Item.last? id new = some item → Item.stored? id after = some item
  others : ∀ id, (∀ item ∈ new, item.id ≠ id) → Item.stored? id after = Item.stored? id items
  distinct : (after.map Item.id).Nodup
  ids : ∀ id, id ∈ after.map Item.id ↔ id ∈ items.map Item.id ∨ id ∈ new.map Item.id
  order : after.map Item.id = items.map Item.id ++
    ((new.map Item.id).filter fun id => id ∉ items.map Item.id).eraseDups

/-- **The order of identifiers**: the old ones, then the new ones as they first occur. -/
theorem Item.map_id_foldl_upsert (new items : List Item) :
    (new.foldl (fun items item => Item.upsert item items) items).map Item.id =
      items.map Item.id ++
        ((new.map Item.id).filter fun id => id ∉ items.map Item.id).eraseDups := by
  induction new generalizing items with
  | nil => simp
  | cons item rest ih =>
      rw [List.foldl_cons, ih, map_id_upsert, List.map_cons]
      by_cases hmem : item.id ∈ items.map Item.id
      · rw [if_pos hmem, List.filter_cons_of_neg (by simpa using hmem)]
      · rw [if_neg hmem, List.filter_cons_of_pos (by simpa using hmem), List.eraseDups_cons,
          List.append_assoc, List.singleton_append, List.filter_filter]
        congr 3
        apply List.filter_congr
        intro id _
        by_cases hid : id = item.id <;> simp [hid]

/-- **Adding items upserts them.** -/
theorem upserted_applyTo (new : List Item) {items : List Item} (h : (items.map Item.id).Nodup) :
    Upserted new items ((Write.add new).applyTo items) where
  last id item hlast := by
    rw [Write.applyTo, Write.stored?_foldl_upsert, hlast]
    rfl
  others id hother := by
    rw [Write.applyTo, Write.stored?_foldl_upsert, Item.last?_eq_none_iff.mpr hother]
    rfl
  distinct := Write.nodup_applyTo _ h
  ids id := by
    rw [Write.applyTo, Item.map_id_foldl_upsert, List.mem_append, List.mem_eraseDups,
      List.mem_filter]
    by_cases hmem : id ∈ items.map Item.id <;> simp [hmem]
  order := Item.map_id_foldl_upsert new items

/-! ## Rows -/

namespace DataRow

/-- The first row under an identifier. -/
def first? (nodeId : Cell) (rows : List DataRow) : Option DataRow :=
  rows.find? fun row => row.nodeId = nodeId

/-- Puts rows in their places one after the other. -/
def upsertAll (new rows : List DataRow) : List DataRow :=
  new.foldl (fun rows row => upsert row rows) rows

variable {row other : DataRow} {rows new : List DataRow}

theorem first?_cons (nodeId : Cell) (row : DataRow) (rows : List DataRow) :
    first? nodeId (row :: rows) = if row.nodeId = nodeId then some row else first? nodeId rows := by
  by_cases h : row.nodeId = nodeId <;> simp [first?, h]

theorem first?_append (nodeId : Cell) (xs ys : List DataRow) :
    first? nodeId (xs ++ ys) = (first? nodeId xs).or (first? nodeId ys) :=
  List.find?_append

/-- Under the identifier of one of the rows a row is found. -/
theorem isSome_first? {nodeId : Cell} (h : nodeId ∈ rows.map DataRow.nodeId) :
    (first? nodeId rows).isSome := by
  obtain ⟨row, hrow, rfl⟩ := List.mem_map.mp h
  exact List.find?_isSome.mpr ⟨row, hrow, by simp⟩

theorem first?_eq_none {nodeId : Cell} (h : nodeId ∉ rows.map DataRow.nodeId) :
    first? nodeId rows = none := by
  refine List.find?_eq_none.mpr fun row hrow heq => h ?_
  exact List.mem_map.mpr ⟨row, hrow, of_decide_eq_true heq⟩

/-- A row is found under its identifier, and nothing else changes. -/
theorem first?_upsert (nodeId : Cell) (row : DataRow) (rows : List DataRow) :
    first? nodeId (upsert row rows) =
      if row.nodeId = nodeId then some row else first? nodeId rows := by
  induction rows with
  | nil => simp [upsert, first?_cons]
  | cons head rest ih =>
      unfold upsert
      by_cases hhead : head.nodeId = row.nodeId
      · rw [if_pos hhead, first?_cons, first?_cons, hhead]
        by_cases hrow : row.nodeId = nodeId <;> simp [hrow]
      · rw [if_neg hhead, first?_cons, first?_cons, ih]
        by_cases hrow : row.nodeId = nodeId
        · have hne : head.nodeId ≠ nodeId := fun heq => hhead (heq.trans hrow.symm)
          simp [hrow, hne]
        · simp [hrow]

/-- After many rows, the last one under an identifier is found. -/
theorem first?_upsertAll (nodeId : Cell) (new rows : List DataRow) :
    first? nodeId (upsertAll new rows) = first? nodeId (new.reverse ++ rows) := by
  induction new generalizing rows with
  | nil => rfl
  | cons row rest ih =>
      rw [upsertAll, List.foldl_cons, ← upsertAll, ih, List.reverse_cons, List.append_assoc,
        first?_append, first?_append, first?_upsert, List.singleton_append, first?_cons]

/-- A row that is found and stays is found among the rows that stay. -/
theorem first?_filter {p : DataRow → Bool} {nodeId : Cell} (h : first? nodeId rows = some row)
    (hstays : p row = true) : first? nodeId (rows.filter p) = some row := by
  induction rows with
  | nil => cases h
  | cons head rest ih =>
      rw [first?_cons] at h
      by_cases hhead : head.nodeId = nodeId
      · rw [if_pos hhead] at h
        obtain rfl := Option.some.inj h
        rw [List.filter_cons_of_pos hstays, first?_cons, if_pos hhead]
      · rw [if_neg hhead] at h
        rw [List.filter_cons]
        split
        · rw [first?_cons, if_neg hhead, ih h]
        · exact ih h

/-- Of the rows of items, the last one under an identifier is that of the last item. -/
theorem first?_reverse_ofItem (id : String) (items : List Item) :
    first? (.text id) (items.map ofItem).reverse = (Item.last? id items).map ofItem := by
  induction items with
  | nil => rfl
  | cons item rest ih =>
      rw [List.map_cons, List.reverse_cons, first?_append, ih, first?_cons, Item.last?,
        Option.map_or]
      by_cases h : item.id = id
      · have hrow : (ofItem item).nodeId = .text id := congrArg Cell.text h
        rw [if_pos hrow, if_pos h, Option.map_some]
      · have hrow : (ofItem item).nodeId ≠ .text id := fun heq => h (Cell.text.inj heq)
        rw [if_neg hrow, if_neg h]
        rfl

/-- A row that is in its place is not moved. -/
theorem upsert_of_first? (h : first? row.nodeId rows = some row) : upsert row rows = rows := by
  induction rows with
  | nil => cases h
  | cons head rest ih =>
      rw [first?_cons] at h
      unfold upsert
      by_cases hhead : head.nodeId = row.nodeId
      · rw [if_pos hhead] at h
        rw [if_pos hhead, Option.some.inj h]
      · rw [if_neg hhead] at h
        rw [if_neg hhead, ih h]

/-- Of two rows under one identifier the second stays. -/
theorem upsert_upsert (h : row.nodeId = other.nodeId) :
    upsert other (upsert row rows) = upsert other rows := by
  induction rows with
  | nil => simp [upsert, h]
  | cons head rest ih =>
      by_cases hhead : head.nodeId = other.nodeId
      · simp [upsert, h, hhead]
      · simp [upsert, h, hhead, ih]

/-- The order of two rows does not matter if one of them has its place already. -/
theorem upsert_comm (hne : row.nodeId ≠ other.nodeId) (h : (first? row.nodeId rows).isSome) :
    upsert other (upsert row rows) = upsert row (upsert other rows) := by
  induction rows with
  | nil => cases h
  | cons head rest ih =>
      rw [first?_cons] at h
      by_cases hhead : head.nodeId = row.nodeId
      · have hother : head.nodeId ≠ other.nodeId := fun heq => hne (hhead.symm.trans heq)
        simp [upsert, hhead, hne]
      · rw [if_neg hhead] at h
        by_cases hother : head.nodeId = other.nodeId
        · simp [upsert, hother, Ne.symm hne]
        · simp [upsert, hhead, hother, ih h]

/-- A row that is written over later need not be written, if it has its place. -/
theorem upsertAll_upsert (h : (first? row.nodeId rows).isSome)
    (hlater : row.nodeId ∈ new.map nodeId) :
    upsertAll new (upsert row rows) = upsertAll new rows := by
  induction new generalizing rows with
  | nil => cases hlater
  | cons other rest ih =>
      rw [upsertAll, upsertAll, List.foldl_cons, List.foldl_cons, ← upsertAll, ← upsertAll]
      by_cases heq : row.nodeId = other.nodeId
      · rw [upsert_upsert heq]
      · have hrest : row.nodeId ∈ rest.map nodeId := (List.mem_cons.mp hlater).resolve_left heq
        have hplace : (first? row.nodeId (upsert other rows)).isSome := by
          rw [first?_upsert, if_neg (Ne.symm heq)]
          exact h
        rw [upsert_comm heq h, ih hplace hrest]

/-- Rows of which the last ones are in place change nothing. -/
theorem upsertAll_of_first? (h : ∀ nodeId, nodeId ∈ new.map DataRow.nodeId →
      first? nodeId rows = first? nodeId new.reverse) : upsertAll new rows = rows := by
  induction new with
  | nil => rfl
  | cons row rest ih =>
      have hreverse : ∀ nodeId, first? nodeId (row :: rest).reverse =
          (first? nodeId rest.reverse).or (if row.nodeId = nodeId then some row else none) := by
        intro nodeId
        rw [List.reverse_cons, first?_append, first?_cons]
        rfl
      have hsome : ∀ nodeId, nodeId ∈ rest.map DataRow.nodeId →
          (first? nodeId rest.reverse).isSome := by
        intro nodeId hmem
        exact isSome_first? (by rwa [List.map_reverse, List.mem_reverse])
      have hrest : upsertAll rest rows = rows := by
        refine ih fun nodeId hmem => ?_
        rw [h nodeId (List.mem_cons_of_mem _ hmem), hreverse, Option.or_of_isSome (hsome _ hmem)]
      have hfirst := h row.nodeId List.mem_cons_self
      rw [hreverse] at hfirst
      rw [upsertAll, List.foldl_cons, ← upsertAll]
      -- the row is written over later, or it is the last under its identifier and in place
      by_cases hlater : row.nodeId ∈ rest.map DataRow.nodeId
      · rw [Option.or_of_isSome (hsome _ hlater)] at hfirst
        rw [upsertAll_upsert (hfirst ▸ hsome _ hlater) hlater, hrest]
      · have hnone : first? row.nodeId rest.reverse = none := by
          refine first?_eq_none ?_
          rwa [List.map_reverse, List.mem_reverse]
        rw [hnone, Option.none_or, if_pos rfl] at hfirst
        rw [upsert_of_first? hfirst, hrest]

/-- **The same rows again** change nothing. -/
theorem upsertAll_again (new rows : List DataRow) :
    upsertAll new (upsertAll new rows) = upsertAll new rows := by
  refine upsertAll_of_first? fun nodeId hmem => ?_
  rw [first?_upsertAll, first?_append]
  exact Option.or_of_isSome (isSome_first? (by rwa [List.map_reverse, List.mem_reverse]))

end DataRow

namespace Write

theorem rowsAfter_add (items : List Item) (rows : List DataRow) :
    (add items).rowsAfter rows = DataRow.upsertAll (items.map DataRow.ofItem) rows := by
  rw [rowsAfter, DataRow.upsertAll, List.foldl_map]

/-- After an addition the row of the last item under an identifier is found there. -/
theorem first?_add (id : String) (items : List Item) (rows : List DataRow) :
    DataRow.first? (.text id) ((add items).rowsAfter rows) =
      ((Item.last? id items).map DataRow.ofItem).or (DataRow.first? (.text id) rows) := by
  rw [rowsAfter_add, DataRow.first?_upsertAll, DataRow.first?_append, DataRow.first?_reverse_ofItem]

/-- **The same items again** change no data row. -/
theorem rowsAfter_again (items : List Item) (rows : List DataRow) :
    (add items).rowsAfter ((add items).rowsAfter rows) = (add items).rowsAfter rows := by
  rw [rowsAfter_add, rowsAfter_add, DataRow.upsertAll_again]

/-- **The same items again** change no lexeme row. -/
theorem lexemesAfter_again (a : Analyzer) (items : List Item) (rows others : List DataRow)
    (lexemes : List LexemeRow) :
    ((add items).lexemesAfter a rows lexemes).Perm
      ((add items).lexemesAfter a others ((add items).lexemesAfter a rows lexemes)) := by
  rw [LexemeRow.perm_iff_ofNode]
  intro id
  simp only [lexemesAfter, ofNode_foldl_replaceLexemes]
  cases Item.last? id items <;> exact List.Perm.refl _

end Write

/-! ## Chunks -/

namespace Store

variable {s : Store} {db mid made other : Database} {rows : List DataRow} {xs ys items : List Item}

/-- An addition of the right lengths succeeds over the tables of the store. -/
theorem add_of_equipped (h : Equipped s db) (hrows : db.table? s.names.data = some (.data rows))
    (hfits : (Write.add items).Fits s.params.embedDim) :
    ∃ made, s.add items (some db) = .ok (items.map Item.id, some made) ∧
      s.Leaves (.add items) rows db made := by
  obtain ⟨made, hwrite, hleaves⟩ := write_of_equipped h hrows hfits
  obtain ⟨_, -, hmade, hadd⟩ := write_add_ok hwrite
  obtain rfl := Option.some.inj hmade
  exact ⟨_, hadd, hleaves⟩

/-- Adding nothing leaves everything. -/
theorem Leaves.refl (hrows : db.table? s.names.data = some (.data rows)) :
    s.Leaves (.add []) rows db db :=
  ⟨hrows, fun _ _ hlexemes => hlexemes, fun _ _ _ => rfl, rfl⟩

/-- Two additions leave what the addition of both lists leaves. -/
theorem Leaves.append (h : s.Leaves (.add xs) rows db mid)
    (h' : s.Leaves (.add ys) ((Write.add xs).rowsAfter rows) mid made) :
    s.Leaves (.add (xs ++ ys)) rows db made where
  data := by
    rw [h'.data, Write.rowsAfter, Write.rowsAfter, Write.rowsAfter, List.foldl_append]
  index hhybrid lexemes hlexemes := by
    rw [h'.index hhybrid _ (h.index hhybrid lexemes hlexemes), Write.lexemesAfter,
      Write.lexemesAfter, Write.lexemesAfter, List.foldl_append]
  others name hdata hindex := (h'.others name hdata hindex).trans (h.others name hdata hindex)
  indexes := h'.indexes.trans h.indexes

/-- What a write leaves is determined, table by table. -/
theorem Leaves.unique {w : Write} (hequipped : Equipped s db) (h : s.Leaves w rows db made)
    (h' : s.Leaves w rows db other) (name : String) : made.table? name = other.table? name := by
  by_cases hdata : name = s.names.data
  · rw [hdata, h.data, h'.data]
  · by_cases hindex : s.hybrid = true ∧ name = s.names.lexemes
    · obtain ⟨hhybrid, rfl⟩ := hindex
      obtain ⟨lexemes, hlexemes⟩ := hequipped.index hhybrid
      rw [h.index hhybrid lexemes hlexemes, h'.index hhybrid lexemes hlexemes]
    · have hother : s.hybrid = true → name ≠ s.names.lexemes := fun hhybrid heq =>
        hindex ⟨hhybrid, heq⟩
      rw [h.others name hdata hother, h'.others name hdata hother]

/-- Adds one chunk after the other; what each addition gives comes back in order. -/
def addEach (s : Store) :
    List (List Item) → Connection → Except Error (List (List String) × Connection)
  | [], c => .ok ([], c)
  | chunk :: rest, c => do
    let (ids, c) ← s.add chunk c
    let (more, c) ← s.addEach rest c
    return (ids :: more, c)

/-- **Chunk by chunk.**  Additions of chunks succeed, as batches too, and leave what the addition of
the whole list leaves. -/
theorem addEach_of_equipped {chunks : List (List Item)} (h : Equipped s db)
    (hrows : db.table? s.names.data = some (.data rows))
    (hfits : (Write.add chunks.flatten).Fits s.params.embedDim) :
    ∃ made, s.addEach chunks (some db) = .ok (chunks.map (List.map Item.id), some made) ∧
      s.addBatches chunks (some db) = (.ok (), some made) ∧
      s.Leaves (.add chunks.flatten) rows db made := by
  induction chunks generalizing db rows with
  | nil => exact ⟨db, rfl, rfl, .refl hrows⟩
  | cons chunk rest ih =>
      rw [List.flatten_cons] at hfits
      have hchunk : (Write.add chunk).Fits s.params.embedDim := fun item hitem =>
        hfits item (List.mem_append_left _ hitem)
      have hrest : (Write.add rest.flatten).Fits s.params.embedDim := fun item hitem =>
        hfits item (List.mem_append_right _ hitem)
      obtain ⟨mid, hadd, hmid⟩ := add_of_equipped h hrows hchunk
      obtain ⟨made, hmore, hbatches, hmade⟩ :=
        ih (h.of_kinds (hmid.keepsKinds h hrows)) hmid.data hrest
      refine ⟨made, ?_, ?_, hmid.append hmade⟩
      · rw [addEach, hadd]
        simp only [bind, Except.bind, hmore]
        rfl
      · rw [addBatches, hadd]
        exact hbatches

end Store

/-- The batches of a list make it up again. -/
theorem flatten_batches {α : Type} (extra : Nat) (items : List α) :
    (batches extra items).flatten = items := by
  fun_induction batches extra items with
  | case1 => rfl
  | case2 x rest ih => rw [List.flatten_cons, ih, List.cons_append, List.take_append_drop]

end HybridRetrieval
