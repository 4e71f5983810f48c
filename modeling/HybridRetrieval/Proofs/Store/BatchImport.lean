import HybridRetrieval.Proofs.Store.Upserts
/-!
# Bulk import

All lines of an import file are read before anything is written, so there are items only if every
line that is not blank holds a record (`itemsOfFile_eq_ok_iff`).  They are added in batches, up to
the first batch with an embedding of another length.  A batch is added entirely or not at all, so
what is left is what the addition of the batches before it leaves (`Store.addBatches_stops`).  All
batches but the last have one size, so these hold the items up to a multiple of it
(`flatten_takeWhile_batches`).
-/

namespace HybridRetrieval

/-! ## Lines -/

/-- The item that a line holds, if it holds a record. -/
def Item.ofLine? (line : List Char) : Option Item :=
  (Json.decodeText ImportRecord.decoder line).toOption.map ImportRecord.toItem

/-- The lines of a file that are not blank. -/
def recordLines (content : String) : List (List Char) :=
  (textLines content.toList).filter fun line => !isBlankLine line

/-- **Lines hold items** if all that are not blank do, wherever their numbers begin. -/
theorem itemsOfLines_eq_ok_iff {number : Nat} {lines : List (List Char)} {items : List Item} :
    itemsOfLines number lines = .ok items ↔
      (lines.filter fun line => !isBlankLine line).map Item.ofLine? = items.map some := by
  induction lines generalizing number items with
  | nil =>
      rw [itemsOfLines, List.filter_nil, List.map_nil, eq_comm (a := []), List.map_eq_nil_iff,
        Except.ok.injEq, eq_comm]
  | cons line rest ih =>
      unfold itemsOfLines
      cases hblank : isBlankLine line with
      | true => simp [hblank, ih]
      | false =>
          have hfilter : ((line :: rest).filter fun line => !isBlankLine line) =
              line :: rest.filter fun line => !isBlankLine line :=
            List.filter_cons_of_pos (by rw [hblank]; rfl)
          rw [hfilter, List.map_cons, if_neg Bool.false_ne_true, Item.ofLine?]
          cases hrecord : Json.decodeText ImportRecord.decoder line with
          | error e => cases items <;> simp [Except.toOption]
          | ok record =>
              simp only [bind_eq_ok_iff, ih, Except.toOption, Option.map_some]
              constructor
              · intro h
                obtain ⟨more, hmore, hitems⟩ := h
                rw [hmore, ← Except.ok.inj hitems, List.map_cons]
              · intro h
                obtain ⟨first, more, rfl, hfirst, hmore⟩ := List.map_eq_cons_iff.mp h.symm
                rw [Option.some.inj hfirst]
                exact ⟨more, hmore.symm, rfl⟩

theorem itemsOfFile_eq_ok_iff {content : String} {items : List Item} :
    itemsOfFile content = .ok items ↔
      (recordLines content).map Item.ofLine? = items.map some :=
  itemsOfLines_eq_ok_iff

/-- A line that is neither blank nor a record makes the whole file unreadable. -/
theorem itemsOfFile_of_not_record {content : String} {line : List Char}
    (hline : line ∈ recordLines content) (hnone : Item.ofLine? line = none) :
    ∃ number, itemsOfFile content = .error number := by
  cases hitems : itemsOfFile content with
  | error number => exact ⟨number, rfl⟩
  | ok items =>
      have hmem : Item.ofLine? line ∈ items.map some :=
        itemsOfFile_eq_ok_iff.mp hitems ▸ List.mem_map_of_mem hline
      rw [hnone] at hmem
      simp at hmem

/-- A file has a line that is neither blank nor a record, or all such lines hold items. -/
theorem exists_not_record_or_items (content : String) :
    (∃ line ∈ recordLines content, Item.ofLine? line = none) ∨
      (recordLines content).map Item.ofLine? =
        ((recordLines content).filterMap Item.ofLine?).map some := by
  induction recordLines content with
  | nil => exact Or.inr rfl
  | cons line rest ih =>
      cases hline : Item.ofLine? line with
      | none => exact Or.inl ⟨line, List.mem_cons_self, hline⟩
      | some item =>
          rcases ih with ⟨other, hother, hnone⟩ | hrest
          · exact Or.inl ⟨other, List.mem_cons_of_mem _ hother, hnone⟩
          · rw [List.map_cons, List.filterMap_cons_some hline, List.map_cons, hline, hrest]
            exact Or.inr rfl

/-! ## Batches -/

section Batches

variable {α : Type} {p : α → Bool} {extra : Nat} {items : List α}

/-- **The batches before the first hit** hold the items up to a multiple of their size. -/
theorem flatten_takeWhile_batches {place : Nat} (h : items.findIdx? p = some place) :
    ((batches extra items).takeWhile fun batch => !batch.any p).flatten =
      items.take ((extra + 1) * (place / (extra + 1))) := by
  fun_induction batches extra items generalizing place with
  | case1 => cases h
  | case2 x rest ih =>
      have hsplit : x :: rest = (x :: rest.take extra) ++ rest.drop extra := by
        rw [List.cons_append, List.take_append_drop]
      rw [hsplit, List.findIdx?_append] at h
      cases hbatch : (x :: rest.take extra).findIdx? p with
      | some k =>
          -- the hit is in this batch, so no batch comes before it
          obtain ⟨hlt, hhit, -⟩ := List.findIdx?_eq_some_iff_getElem.mp hbatch
          have hany : (x :: rest.take extra).any p = true :=
            List.any_eq_true.mpr ⟨_, List.getElem_mem hlt, hhit⟩
          have hplace : place < extra + 1 := by
            rw [hbatch] at h
            simp at h hlt
            omega
          rw [List.takeWhile_cons_of_neg (by simp [hany]), Nat.div_eq_of_lt hplace]
          rfl
      | none =>
          have hnone : (x :: rest.take extra).any p = false := by
            simpa using hbatch
          rw [hbatch, Option.none_or] at h
          obtain ⟨k, hk, hplace⟩ := Option.map_eq_some_iff.mp h
          -- something follows, so this batch is a full one
          have hlength : (x :: rest.take extra).length = extra + 1 := by
            have hlater : (rest.drop extra).length ≠ 0 := by
              intro hnil
              rw [List.eq_nil_of_length_eq_zero hnil] at hk
              cases hk
            simp at hlater ⊢
            omega
          have hcount : (extra + 1) * (place / (extra + 1)) =
              (x :: rest.take extra).length + (extra + 1) * (k / (extra + 1)) := by
            rw [← hplace, hlength, Nat.add_div_right _ (Nat.succ_pos extra), Nat.mul_succ,
              Nat.add_comm]
          rw [List.takeWhile_cons_of_pos (by simp [hnone]), List.flatten_cons, ih hk, hsplit,
            hcount, List.take_length_add_append]

end Batches

namespace Store

/-- Whether the embedding of an item has another length than those of the store. -/
def misfits (s : Store) (item : Item) : Bool := item.embedding.length ≠ s.params.embedDim

variable {s : Store} {db : Database} {rows : List DataRow}

/-- Items fit together if each of them does. -/
theorem fits_iff_any_misfits {items : List Item} :
    (Write.add items).Fits s.params.embedDim ↔ items.any s.misfits = false := by
  simp [Write.Fits, misfits]

/-- A batch in which an item does not fit is refused. -/
theorem add_of_misfit {items : List Item} (h : items.any s.misfits = true) (c : Connection) :
    ∃ e, s.add items c = .error e := by
  rcases s.checkItems_eq items with ⟨hall, -⟩ | ⟨item, -, -, herror⟩
  · rw [fits_iff_any_misfits.mp hall] at h
    cases h
  · exact ⟨_, by rw [add, herror]; rfl⟩

/-- **An import stops at a batch.**  If an item does not fit, its batch is refused, and what is left
is what the addition of the batches before it leaves. -/
theorem addBatches_stops {chunks : List (List Item)} (h : Equipped s db)
    (hrows : db.table? s.names.data = some (.data rows))
    (hmisfit : ∃ chunk ∈ chunks, chunk.any s.misfits = true) :
    ∃ e made, s.addBatches chunks (some db) = (.error e, some made) ∧
      s.Leaves (.add (chunks.takeWhile fun chunk => !chunk.any s.misfits).flatten) rows db
        made := by
  induction chunks generalizing db rows with
  | nil =>
      obtain ⟨chunk, hmem, -⟩ := hmisfit
      cases hmem
  | cons chunk rest ih =>
      cases hany : chunk.any s.misfits with
      | true =>
          obtain ⟨e, herror⟩ := add_of_misfit hany (some db)
          refine ⟨e, db, by rw [addBatches, herror], ?_⟩
          rw [List.takeWhile_cons_of_neg (by simp [hany])]
          exact .refl hrows
      | false =>
          have hrest : ∃ chunk ∈ rest, chunk.any s.misfits = true := by
            obtain ⟨other, hmem, hother⟩ := hmisfit
            refine ⟨other, (List.mem_cons.mp hmem).resolve_left ?_, hother⟩
            intro heq
            rw [heq, hany] at hother
            cases hother
          obtain ⟨mid, hadd, hmid⟩ := add_of_equipped h hrows (fits_iff_any_misfits.mpr hany)
          obtain ⟨e, made, hmore, hmade⟩ :=
            ih (h.of_kinds (hmid.keepsKinds h hrows)) hmid.data hrest
          refine ⟨e, made, by rw [addBatches, hadd]; exact hmore, ?_⟩
          rw [List.takeWhile_cons_of_pos (by simp [hany]), List.flatten_cons]
          exact hmid.append hmade

/-- A database has the tables that the addition of items in one call makes of another one. -/
def LikeAdded (s : Store) (items : List Item) (db made : Database) : Prop :=
  ∃ whole, s.add items (some db) = .ok (items.map Item.id, some whole) ∧
    ∀ name, made.table? name = whole.table? name

/-- What is left of an addition is what one call leaves. -/
theorem Leaves.likeAdded {items : List Item} {made : Database}
    (h : s.Leaves (.add items) rows db made) (hequipped : Equipped s db)
    (hrows : db.table? s.names.data = some (.data rows))
    (hfits : (Write.add items).Fits s.params.embedDim) : s.LikeAdded items db made := by
  obtain ⟨whole, hadd, hwhole⟩ := add_of_equipped hequipped hrows hfits
  exact ⟨whole, hadd, h.unique hequipped hwhole⟩

/-- **An import in batches of one size** adds all items, or it fails at the first that does not fit
and adds those up to a multiple of the size. -/
theorem addBatches_of_equipped (h : Equipped s db) (size : Nat) (items : List Item) :
    ∃ result made, s.addBatches (batchesOfSize size items) (some db) = (result, some made) ∧
      match items.findIdx? s.misfits with
      | none => result = .ok () ∧ s.LikeAdded items db made
      | some place => result ≠ .ok () ∧
          s.LikeAdded (items.take (max size 1 * (place / max size 1))) db made := by
  have hsize : max size 1 = size - 1 + 1 := by omega
  have hflatten : (batchesOfSize size items).flatten = items := flatten_batches _ items
  obtain ⟨rows, hrows⟩ := h.data
  cases hplace : items.findIdx? s.misfits with
  | none =>
      have hfits : (Write.add items).Fits s.params.embedDim := by
        rw [fits_iff_any_misfits]
        simpa using hplace
      obtain ⟨made, -, hdone, hleaves⟩ := addEach_of_equipped h hrows (hflatten ▸ hfits)
      rw [hflatten] at hleaves
      exact ⟨.ok (), made, hdone, rfl, hleaves.likeAdded h hrows hfits⟩
  | some place =>
      obtain ⟨hlt, hbad, hbefore⟩ := List.findIdx?_eq_some_iff_getElem.mp hplace
      have hmisfit : ∃ chunk ∈ batchesOfSize size items, chunk.any s.misfits = true := by
        have hmem : items[place] ∈ (batchesOfSize size items).flatten := by
          rw [hflatten]
          exact List.getElem_mem hlt
        obtain ⟨chunk, hchunk, hin⟩ := List.mem_flatten.mp hmem
        exact ⟨chunk, hchunk, List.any_eq_true.mpr ⟨_, hin, hbad⟩⟩
      -- what is kept comes before the first item that does not fit
      have hfits : (Write.add (items.take (max size 1 * (place / max size 1)))).Fits
          s.params.embedDim := by
        rw [fits_iff_any_misfits, List.any_eq_false]
        intro item hitem
        obtain ⟨k, hk, rfl⟩ := List.mem_take_iff_getElem.mp hitem
        have hle := Nat.mul_div_le place (max size 1)
        exact hbefore k (by omega)
      obtain ⟨e, made, hstop, hleaves⟩ := addBatches_stops h hrows hmisfit
      rw [batchesOfSize, flatten_takeWhile_batches hplace, ← hsize] at hleaves
      exact ⟨.error e, made, hstop, by simp, hleaves.likeAdded h hrows hfits⟩

end Store

end HybridRetrieval
