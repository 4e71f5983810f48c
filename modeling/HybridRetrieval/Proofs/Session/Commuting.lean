import HybridRetrieval.Proofs.Session.Orphans
/-!
# Writes that commute

Through an open handle in any state, the order of two writes makes no difference if they have
nothing to do with each other: an addition and the deletion of a document that it does not concern,
or two deletions.  And a new document that is added and deleted again leaves the data rows as they
were (`writes_commute`).

Its lexemes go with it, and with them all lexeme rows that the index had for its nodes before.
There are none as long as stores keep the index (`Session.Run.noOrphans`), as a store does by
itself, so then everything is as it was.
-/

namespace HybridRetrieval

section Equipped

variable {s : Store} {db : Database} {rows : List DataRow} (hequipped : Equipped s db)
  (hrows : db.table? s.names.data = some (.data rows))
include hequipped hrows

/-- **Writes commute** if they make the same of both kinds of rows in either order. -/
theorem Store.writeEach_comm {w v : Write} (hw : w.Fits s.params.embedDim)
    (hv : v.Fits s.params.embedDim)
    (hdata : Write.rowsAfterEach [w, v] rows = Write.rowsAfterEach [v, w] rows)
    (hindex : ∀ lexemes, Write.lexemesAfterEach s.params.analyzer [w, v] rows lexemes =
      Write.lexemesAfterEach s.params.analyzer [v, w] rows lexemes) :
    ∃ made other, s.writeEach [w, v] (some db) = .ok (some made) ∧
      s.writeEach [v, w] (some db) = .ok (some other) ∧ made.Same other := by
  obtain ⟨made, hmade, hleaves⟩ := Store.writeEach_of_equipped [w, v] hequipped hrows
    (by simp [hw, hv])
  obtain ⟨other, hother, hleaves'⟩ := Store.writeEach_of_equipped [v, w] hequipped hrows
    (by simp [hw, hv])
  exact ⟨made, other, hmade, hother, hleaves.same hequipped hleaves' hdata fun _ lexemes _ =>
    hindex lexemes⟩

/-- **Adding a document and deleting it** leaves the database as it was, but for lexeme rows that
the index had already for the new nodes. -/
theorem Store.writeEach_restores {docId : String} {items : List Item}
    (hfits : (Write.add items).Fits s.params.embedDim)
    (h : Write.IsNewDocument docId items rows) :
    ∃ made, s.writeEach [.add items, .delete docId] (some db) = .ok (some made) ∧
      (∀ name, (s.hybrid = true → name ≠ s.names.lexemes) →
        made.table? name = db.table? name) ∧
      (made.Same db ↔ (s.hybrid = true → ∀ lexemes,
        db.table? s.names.lexemes = some (.lexemes lexemes) →
          ∀ row ∈ lexemes, row.nodeId ∉ items.map Item.id)) := by
  obtain ⟨made, hmade, hleaves⟩ := Store.writeEach_of_equipped
    [.add items, .delete docId] hequipped hrows
    (List.forall_mem_cons.mpr ⟨hfits, List.forall_mem_singleton.mpr trivial⟩)
  have hdata : made.table? s.names.data = db.table? s.names.data := by
    rw [hleaves.data, h.rowsAfter, hrows]
  refine ⟨made, hmade, fun name hname => ?_, fun hsame hhybrid lexemes hlexemes row hrow => ?_,
    fun hnone => ?_⟩
  · by_cases hself : name = s.names.data
    · rw [hself, hdata]
    · exact hleaves.others name hself hname
  · have hafter := hleaves.index hhybrid lexemes hlexemes
    rw [hsame.tables, hlexemes, h.lexemesAfter] at hafter
    have hkept := Table.lexemes.inj (Option.some.inj hafter)
    rw [hkept] at hrow
    exact of_decide_eq_true (List.mem_filter.mp hrow).2
  · obtain ⟨same, hself, hidentity⟩ := Store.writeEach_of_equipped [] hequipped hrows
      fun w hw => absurd hw List.not_mem_nil
    obtain rfl := Option.some.inj (Except.ok.inj hself)
    refine hleaves.same hequipped hidentity h.rowsAfter fun hhybrid lexemes hlexemes => ?_
    rw [h.lexemesAfter]
    exact List.filter_eq_self.mpr fun row hrow =>
      decide_eq_true (hnone hhybrid lexemes hlexemes row hrow)

end Equipped

/-- Lexeme rows of stored nodes are not of new ones. -/
theorem Database.NoOrphans.nodeId_notMem {names : TableNames} {db : Database}
    (h : db.NoOrphans names) {rows : List DataRow}
    (hrows : db.table? names.data = some (.data rows)) {docId : String} {items : List Item}
    (hnew : Write.IsNewDocument docId items rows) {lexemes : List LexemeRow}
    (hlexemes : db.table? names.lexemes = some (.lexemes lexemes)) {row : LexemeRow}
    (hrow : row ∈ lexemes) : row.nodeId ∉ items.map Item.id := by
  intro hmem
  obtain ⟨item, hitem, hid⟩ := List.mem_map.mp hmem
  have hstored := h lexemes hlexemes row hrow
  rw [Database.rowsOf_eq hrows, ← hid] at hstored
  obtain ⟨found, hfound, hsame⟩ := List.mem_map.mp hstored
  exact hnew.ids item hitem found hfound hsame

/-- **Independent writes commute.**  In any state of a session, through an open handle:

* an addition of items of the right length and the deletion of a document leave the same tables in
  either order, if no item is of the document and no row that is stored under the identifier of an
  item is;
* so do the deletions of any two documents;
* items of a new document under new identifiers can be added and deleted, and every table is as it
  was but the index, from which lexeme rows under these identifiers are gone.  There were none, and
  everything is as it was, if the store has come to this state by its own writes, or by any others
  that have not passed over the index of the table. -/
theorem writes_commute {start s : Session} (hstart : start.Fresh)
    (run : Session.EditedRun start s) {name : String} {handle : Store × Nat}
    (hhandle : s.handle? name = some handle) {db : Database}
    (hdb : s.connection handle.2 = some db) :
    ∃ rows, db.table? handle.1.names.data = some (.data rows) ∧
      (∀ docId items, (∀ item ∈ items, item.embedding.length = handle.1.params.embedDim) →
        Write.Unconcerned docId items rows → ∃ made other,
          handle.1.writeEach [.add items, .delete docId] (s.connection handle.2) =
            .ok (some made) ∧
          handle.1.writeEach [.delete docId, .add items] (s.connection handle.2) =
            .ok (some other) ∧ made.Same other) ∧
      (∀ docId docId', ∃ made other,
        handle.1.writeEach [.delete docId, .delete docId'] (s.connection handle.2) =
          .ok (some made) ∧
        handle.1.writeEach [.delete docId', .delete docId] (s.connection handle.2) =
          .ok (some other) ∧ made.Same other) ∧
      ∀ docId items, (∀ item ∈ items, item.embedding.length = handle.1.params.embedDim) →
        Write.IsNewDocument docId items rows → ∃ made,
          handle.1.writeEach [.add items, .delete docId] (s.connection handle.2) =
            .ok (some made) ∧
          (∀ name, (handle.1.hybrid = true → name ≠ handle.1.names.lexemes) →
            made.table? name = db.table? name) ∧
          (made.Same db ↔ (handle.1.hybrid = true → ∀ lexemes,
            db.table? handle.1.names.lexemes = some (.lexemes lexemes) →
              ∀ row ∈ lexemes, row.nodeId ∉ items.map Item.id)) ∧
          (Session.Run (fun _ => True) (IsOwnOrKeepsIndex handle.1) start s → made.Same db) := by
  have hequipped := ((run.equipped hstart).handles name handle hhandle).2 db hdb
  obtain ⟨rows, hrows⟩ := hequipped.data
  rw [hdb]
  refine ⟨rows, hrows, ?_, ?_, ?_⟩
  · intro docId items hfits hunconcerned
    exact Store.writeEach_comm hequipped hrows hfits trivial
      (Write.rowsAfter_add_delete hunconcerned) fun _ => Write.lexemesAfter_add_delete hunconcerned
  · intro docId docId'
    exact Store.writeEach_comm hequipped hrows trivial trivial
      (Write.rowsAfter_delete_delete docId docId' rows)
      fun _ => Write.lexemesAfter_delete_delete docId docId' rows
  · intro docId items hfits hnew
    obtain ⟨made, hmade, hothers, hsame⟩ := Store.writeEach_restores hequipped hrows hfits hnew
    refine ⟨made, hmade, hothers, hsame, fun kept => hsame.mpr ?_⟩
    intro hhybrid lexemes hlexemes row hrow
    have hnone := (kept.imp fun _ _ _ h => h.keepsIndex hhybrid).noOrphans hstart
      hequipped.accepted (Or.inr ⟨_, hdb⟩)
    exact hnone.nodeId_notMem hrows hnew hlexemes hrow

/-! ## One document stored -/

/-- A store is opened with an index and given a document. -/
def Operation.filing : List Operation :=
  [.openStore "h" (Store.ofAnalyzer .english).params,
    .write "h" (.add [.ofDocument "a" "fox" "old"])]

/-- All writes are those of the store. -/
theorem Session.run_filing :
    Session.Run (fun _ => True) (IsOwnOrKeepsIndex (.ofAnalyzer .english)) { disk := .empty }
      (Operation.filing.foldl Session.perform { disk := .empty }) := by
  rw [Operation.filing, List.foldl_cons, List.foldl_cons, List.foldl_nil]
  refine .step (.step .refl trivial) ?_
  intro handle hhandle db hdb
  have hopened : (({ disk := .empty } : Session).perform
      (.openStore "h" (Store.ofAnalyzer .english).params)).handle? "h" =
        some (.ofAnalyzer .english, 0) := by rfl
  rw [hopened] at hhandle
  obtain rfl := Option.some.inj hhandle
  exact Or.inl rfl

/-- A second document goes in and the first one out, in either order; and the second one goes in
and out without a trace. -/
theorem writes_commute_filing :
    ∃ db made other same,
      (Operation.filing.foldl Session.perform { disk := .empty }).connection 0 = some db ∧
      (Store.ofAnalyzer .english).writeEach
        [.add [.ofDocument "b" "red hen" "new"], .delete "old"] (some db) = .ok (some made) ∧
      (Store.ofAnalyzer .english).writeEach
        [.delete "old", .add [.ofDocument "b" "red hen" "new"]] (some db) = .ok (some other) ∧
      made.Same other ∧
      (Store.ofAnalyzer .english).writeEach
        [.add [.ofDocument "b" "red hen" "new"], .delete "new"] (some db) = .ok (some same) ∧
      same.Same db := by
  have hhandle : (Operation.filing.foldl Session.perform { disk := .empty }).handle? "h" =
      some (.ofAnalyzer .english, 0) := by rfl
  have hdb : (Operation.filing.foldl Session.perform { disk := .empty }).connection 0 = some
      ⟨[("data_t", .data [.ofItem (.ofDocument "a" "fox" "old")]), ("data_t_lexemes", .lexemes
        (Store.lexemeRowsOf .english "a" "fox"))],
        ["idx_data_t_ref_doc", "idx_data_t_lexemes_lexeme"]⟩ := by rfl
  obtain ⟨rows, hrows, hadd, -, hrestore⟩ := writes_commute Session.fresh_empty
    (Session.anyRun_foldl Operation.filing _).edited hhandle hdb
  obtain rfl := Table.data.inj (Option.some.inj hrows)
  rw [hdb] at hadd hrestore
  have hfits : ∀ item ∈ [Item.ofDocument "b" "red hen" "new"],
      item.embedding.length = (Store.ofAnalyzer .english).params.embedDim := by decide
  obtain ⟨made, other, hmade, hother, hsame⟩ := hadd "old" _ hfits (by
    unfold Write.Unconcerned
    decide)
  obtain ⟨same, hdone, -, -, hkept⟩ := hrestore "new" _ hfits (by
    constructor <;> decide)
  exact ⟨_, made, other, same, hdb, hmade, hother, hsame, hdone, hkept Session.run_filing⟩

end HybridRetrieval
