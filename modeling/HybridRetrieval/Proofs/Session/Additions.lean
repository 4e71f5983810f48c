import HybridRetrieval.Proofs.Session.HandleChoice
import HybridRetrieval.Proofs.Session.Stocks
import HybridRetrieval.Proofs.Store.Upserts
/-!
# Additions in any state

Whatever has happened to its database before, an addition through an open handle fails on an
embedding of the wrong length and changes nothing, or else upserts all its items at once, with their
lexemes, and touches nothing else (`add_upserts`).

In how many chunks items are added makes no difference, and adding them once more makes none either
(`add_chunks`).  This needs no stocks: it holds of edited rows as well.
-/

namespace HybridRetrieval

/-! ## One addition -/

/-- What an addition makes of the tables: the stock has the items upserted, the lexeme rows of a
hybrid store are those of the last text for each node that is touched, and all else is as it was. -/
structure Added (store : Store) (new items : List Item) (db made : Database) : Prop where
  rows : ∃ after, made.table? store.names.data = some (.data (after.map DataRow.ofItem)) ∧
    Upserted new items after
  lexemes : store.hybrid = true → ∃ before after,
    db.table? store.names.lexemes = some (.lexemes before) ∧
    made.table? store.names.lexemes = some (.lexemes after) ∧
    ∀ id, LexemeRow.ofNode id after = match Item.last? id new with
      | some item => Store.lexemeRowsOf store.params.analyzer id item.node.text
      | none => LexemeRow.ofNode id before
  others : ∀ name, name ≠ store.names.data → (store.hybrid = true → name ≠ store.names.lexemes) →
    made.table? name = db.table? name
  indexes : made.indexes = db.indexes

/-- What an addition leaves of a stock. -/
theorem Added.of_leaves {store : Store} {new items : List Item} {db made : Database}
    (hequipped : Equipped store db) (hdistinct : (items.map Item.id).Nodup)
    (h : store.Leaves (.add new) (items.map DataRow.ofItem) db made) :
    Added store new items db made where
  rows := by
    refine ⟨(Write.add new).applyTo items, ?_, upserted_applyTo new hdistinct⟩
    rw [h.data, Write.rowsAfter_ofItem]
  lexemes := by
    intro hhybrid
    obtain ⟨before, hbefore⟩ := hequipped.index hhybrid
    refine ⟨before, _, hbefore, h.index hhybrid before hbefore, ?_⟩
    intro id
    rw [Write.lexemesAfter, Write.ofNode_foldl_replaceLexemes]
    cases Item.last? id new <;> rfl
  others := h.others
  indexes := h.indexes

/-- **Addition is an atomic upsert**, through every open handle in every state of every run. -/
theorem add_upserts {start s : Session} (hstart : start.Fresh) (run : start.AnyRun s)
    {name : String} {handle : Store × Nat} (hhandle : s.handle? name = some handle) {db : Database}
    (hdb : s.connection handle.2 = some db) (new : List Item) :
    match new.find? fun item => item.embedding.length ≠ handle.1.params.embedDim with
    | some bad =>
      handle.1.add new (s.connection handle.2) =
          .error (.dimensionMismatch handle.1.params.embedDim bad.embedding.length) ∧
        s.perform (.write name (.add new)) = s
    | none => ∃ made items,
      handle.1.add new (s.connection handle.2) = .ok (new.map Item.id, some made) ∧
        (s.perform (.write name (.add new))).connection handle.2 = some made ∧
        db.table? handle.1.names.data = some (.data (items.map DataRow.ofItem)) ∧
        (items.map Item.id).Nodup ∧ Added handle.1 new items db made := by
  split
  · rename_i bad hfind
    have hadd : handle.1.add new (s.connection handle.2) =
        .error (.dimensionMismatch handle.1.params.embedDim bad.embedding.length) := by
      rw [Store.add, Store.checkItems_find?, hfind]
      rfl
    have hwrite : handle.1.write (.add new) (s.connection handle.2) =
        .error (.dimensionMismatch handle.1.params.embedDim bad.embedding.length) := by
      rw [Store.write, hadd]
      rfl
    exact ⟨hadd, by rw [Session.perform_write hhandle, Session.writeThrough_error hwrite]⟩
  · rename_i hfind
    have hfits : (Write.add new).Fits handle.1.params.embedDim := by
      simpa [Write.Fits] using hfind
    have hupheld := run.edited.equipped hstart
    have hequipped := (hupheld.handles name handle hhandle).2 db hdb
    obtain ⟨rows, hrows, items, rfl, hdistinct⟩ := run.stock hstart hhandle hdb
    obtain ⟨made, hadd, hleaves⟩ := Store.add_of_equipped hequipped hrows hfits
    rw [← hdb] at hadd
    have hwrite : handle.1.write (.add new) (s.connection handle.2) = .ok (some made) := by
      rw [Store.write, hadd]
      rfl
    refine ⟨made, items, hadd, ?_, hrows, hdistinct, .of_leaves hequipped hdistinct hleaves⟩
    rw [Session.perform_write hhandle, Session.writeThrough_ok hwrite]
    exact hupheld.connection_store hdb made

/-- Identifiers that repeat and one that is stored: the old ones keep their places. -/
theorem add_upserts_repeated :
    ∃ made after, (Store.ofDimension 1).add
        [.ofEmbedding "b" [.zero], .ofEmbedding "c" [.one], .ofEmbedding "c" [.zero]]
        ((Session.ofItems 1 [.ofEmbedding "a" [.one], .ofEmbedding "b" [.one]]).connection 0) =
          .ok (["b", "c", "c"], some made) ∧
      made.table? "data_t" = some (.data (after.map DataRow.ofItem)) ∧
      after.map Item.id = ["a", "b", "c"] ∧
      Item.stored? "c" after = some (.ofEmbedding "c" [.zero]) := by
  have hhandle : (Session.ofItems 1 [.ofEmbedding "a" [.one], .ofEmbedding "b" [.one]]).handle?
      "h" = some (.ofDimension 1, 0) := by rfl
  have hdb : (Session.ofItems 1 [.ofEmbedding "a" [.one], .ofEmbedding "b" [.one]]).connection 0 =
      some ⟨[("data_t", .data ([.ofEmbedding "a" [.one], .ofEmbedding "b" [.one]].map .ofItem))],
        ["idx_data_t_ref_doc"]⟩ := by rfl
  obtain ⟨made, items, hadd, -, hitems, -, hadded⟩ := add_upserts Session.fresh_empty
    (Session.anyRun_foldl _ _) hhandle hdb
    [.ofEmbedding "b" [.zero], .ofEmbedding "c" [.one], .ofEmbedding "c" [.zero]]
  obtain ⟨after, hafter, hupserted⟩ := hadded.rows
  refine ⟨made, after, hadd, hafter, ?_, hupserted.last "c" _ (by rfl)⟩
  have hrows : [Item.ofEmbedding "a" [.one], .ofEmbedding "b" [.one]].map DataRow.ofItem =
      items.map DataRow.ofItem := Table.data.inj (Option.some.inj hitems)
  rw [hupserted.order, ← DataRow.map_id_eq_of_map_ofItem hrows]
  decide

/-! ## Chunks -/

/-- **A second addition** of the same items leaves the same rows. -/
theorem Store.Leaves.sameRows_again {store : Store} {items : List Item} {rows : List DataRow}
    {db made again : Database} (hequipped : Equipped store db)
    (h : store.Leaves (.add items) rows db made)
    (h' : store.Leaves (.add items) ((Write.add items).rowsAfter rows) made again) :
    SameRows store.names (some made) (some again) := by
  have hdata : made.table? store.names.data = again.table? store.names.data := by
    rw [h.data, h'.data, Write.rowsAfter_again]
  cases hhybrid : store.hybrid with
  | true =>
      obtain ⟨lexemes, hlexemes⟩ := hequipped.index hhybrid
      have hrows : ∀ {db : Database} {rows : List LexemeRow},
          db.table? store.names.lexemes = some (.lexemes rows) →
            indexRows? store.names db = some rows := by
        intro db rows hdb
        rw [indexRows?, hdb]
      have hmade := h.index hhybrid lexemes hlexemes
      have hagain := h'.index hhybrid _ hmade
      rw [sameRows_some_iff hdata (hrows hmade) (hrows hagain)]
      exact Write.lexemesAfter_again _ items rows _ lexemes
  | false =>
      have hindex : indexRows? store.names again = indexRows? store.names made := by
        rw [indexRows?, indexRows?, h'.others _ (TableNames.lexemes_ne_data hequipped.accepted)]
        simp [hhybrid]
      have hrefl := SameRows.refl store.names (some made)
      rw [SameRows] at hrefl ⊢
      simpa [hdata, hindex] using hrefl

/-- **Chunks make no difference, nor does a second time.**  Through an open handle in any state,
items of the right length are added at once, or in chunks, or, when all are there, once more. -/
theorem add_chunks {start s : Session} (hstart : start.Fresh) (run : Session.EditedRun start s)
    {name : String} {handle : Store × Nat} (hhandle : s.handle? name = some handle) {db : Database}
    (hdb : s.connection handle.2 = some db) {items : List Item}
    (hfits : ∀ item ∈ items, item.embedding.length = handle.1.params.embedDim) :
    ∃ made, handle.1.add items (s.connection handle.2) = .ok (items.map Item.id, some made) ∧
      (∀ chunks : List (List Item), chunks.flatten = items → ∃ ids other,
        handle.1.addEach chunks (s.connection handle.2) = .ok (ids, some other) ∧
          ids.flatten = items.map Item.id ∧
          handle.1.addBatches chunks (s.connection handle.2) = (.ok (), some other) ∧
          (∀ name, other.table? name = made.table? name) ∧ other.indexes = made.indexes) ∧
      ∃ again, handle.1.add items (some made) = .ok (items.map Item.id, some again) ∧
        SameRows handle.1.names (some made) (some again) ∧
        (∀ name, name ≠ handle.1.names.data → name ≠ handle.1.names.lexemes →
          again.table? name = made.table? name) ∧ again.indexes = made.indexes := by
  have hequipped := ((run.equipped hstart).handles name handle hhandle).2 db hdb
  obtain ⟨rows, hrows⟩ := hequipped.data
  obtain ⟨made, hadd, hmade⟩ := Store.add_of_equipped hequipped hrows hfits
  rw [hdb]
  refine ⟨made, hadd, ?_, ?_⟩
  · rintro chunks rfl
    obtain ⟨other, heach, hbatches, hother⟩ := Store.addEach_of_equipped hequipped hrows hfits
    refine ⟨_, other, heach, by rw [List.map_flatten], hbatches, ?_, ?_⟩
    · exact hother.unique hequipped hmade
    · rw [hother.indexes, hmade.indexes]
  · have hequipped' := hequipped.of_kinds (hmade.keepsKinds hequipped hrows)
    obtain ⟨again, hadd', hagain⟩ := Store.add_of_equipped hequipped' hmade.data hfits
    refine ⟨again, hadd', ?_, ?_, hagain.indexes⟩
    · exact hmade.sameRows_again hequipped hagain
    · exact fun name hdata hindex => hagain.others name hdata fun _ => hindex

/-- Batches of two in a hybrid store, with identifiers that repeat within and across them. -/
theorem add_chunks_batches :
    ∃ made other, (Store.ofAnalyzer .english).add
        [.ofText "a" "fox", .ofText "b" "hen", .ofText "a" "cow"]
        ((Session.ofHybrid [.ofText "b" "owl"]).connection 0) = .ok (["a", "b", "a"], some made) ∧
      (Store.ofAnalyzer .english).addBatches
        (batchesOfSize 2 [.ofText "a" "fox", .ofText "b" "hen", .ofText "a" "cow"])
        ((Session.ofHybrid [.ofText "b" "owl"]).connection 0) = (.ok (), some other) ∧
      ∀ name, other.table? name = made.table? name := by
  have hhandle : (Session.ofHybrid [.ofText "b" "owl"]).handle? "h" =
      some (.ofAnalyzer .english, 0) := by rfl
  have hdb : (Session.ofHybrid [.ofText "b" "owl"]).connection 0 =
      some (.ofHybrid [.ofText "b" "owl"]) := by rfl
  have hrun : Session.EditedRun { disk := .empty } (Session.ofHybrid [.ofText "b" "owl"]) :=
    (Session.anyRun_foldl _ _).edited
  have hfits : ∀ item ∈ [Item.ofText "a" "fox", .ofText "b" "hen", .ofText "a" "cow"],
      item.embedding.length = 0 := by simp [Item.ofText]
  obtain ⟨made, hadd, hchunks, -⟩ := add_chunks Session.fresh_empty hrun hhandle hdb hfits
  obtain ⟨-, other, -, -, hbatches, hsame, -⟩ := hchunks _ (flatten_batches 1 _)
  exact ⟨made, other, hadd, hbatches, hsame⟩

end HybridRetrieval
