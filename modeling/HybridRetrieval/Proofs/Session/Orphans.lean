import HybridRetrieval.Proofs.Session.Arranged
import HybridRetrieval.Proofs.Store.Commuting
/-!
# No lexemes without their row

A store that is not hybrid does not look at the index.  If it writes while there is one, lexeme rows
may stay behind whose data row is gone.  As long as no store of a logical table does so
(`KeepsIndex`), every lexeme row of the table is of a stored node, in every state of every run
(`Session.Run.noOrphans`): an index is filled from the rows that are there, an addition leaves
lexemes of nodes that it has put, and a deletion takes the lexemes of a node away with its row.
-/

namespace HybridRetrieval

/-- Every lexeme row of the logical table is of a node that is stored in its data table. -/
def Database.NoOrphans (names : TableNames) (db : Database) : Prop :=
  ∀ rows, db.table? names.lexemes = some (.lexemes rows) → ∀ row ∈ rows,
    Cell.text row.nodeId ∈ (db.rowsOf names.data).map DataRow.nodeId

/-- A store of the logical table that is not hybrid writes only while there is no index. -/
def KeepsIndex (names : TableNames) (store : Store) (db : Database) (_ : Write) : Prop :=
  store.names = names → store.hybrid = false →
    ∀ rows, db.table? names.lexemes ≠ some (.lexemes rows)

/-- The write is the store's own, or keeps the index of its table. -/
def IsOwnOrKeepsIndex (s store : Store) (db : Database) (w : Write) : Prop :=
  store = s ∨ KeepsIndex s.names store db w

/-- A hybrid store keeps its index by itself. -/
theorem IsOwnOrKeepsIndex.keepsIndex {s store : Store} {db : Database} {w : Write}
    (h : IsOwnOrKeepsIndex s store db w) (hhybrid : s.hybrid = true) :
    KeepsIndex s.names store db w := by
  rcases h with rfl | hkeeps
  · intro _ hplain
    rw [hhybrid] at hplain
    cases hplain
  · exact hkeeps

/-- The tables of accepted names belong together. -/
theorem TableNames.lexemes_eq_iff {x y : TableNames} (hx : x.Accepted) (hy : y.Accepted) :
    x.lexemes = y.lexemes ↔ x.data = y.data := by
  rw [hx.shape.2, hy.shape.2, String.append_left_inj]

/-- The data table tells what the logical table is. -/
theorem TableNames.eq_of_data_eq {x y : TableNames} (hx : x.Accepted) (hy : y.Accepted)
    (h : x.data = y.data) : x = y := by
  have hlexemes := (lexemes_eq_iff hx hy).mpr h
  cases x
  cases y
  exact congr (congrArg TableNames.mk h) hlexemes

/-! ## Writing -/

namespace Write

variable {a : Analyzer} {rows : List DataRow} {lexemes : List LexemeRow}

/-- **A write that keeps the index** leaves lexemes of stored nodes. -/
theorem nodeId_mem_rowsAfter (w : Write)
    (h : ∀ l ∈ lexemes, Cell.text l.nodeId ∈ rows.map DataRow.nodeId) :
    ∀ l ∈ w.lexemesAfter a rows lexemes,
      Cell.text l.nodeId ∈ (w.rowsAfter rows).map DataRow.nodeId := by
  cases w with
  | delete docId =>
      intro l hl
      obtain ⟨hstored, hkept⟩ := List.mem_filter.mp hl
      obtain ⟨row, hrow, hid⟩ := List.mem_map.mp (h l hstored)
      refine List.mem_map.mpr ⟨row, List.mem_filter.mpr ⟨hrow, ?_⟩, hid⟩
      rw [keeps_iff.mp hkept row hrow hid, Bool.not_false]
  | add items =>
      rw [lexemesAfter, rowsAfter]
      induction items generalizing rows lexemes with
      | nil => exact h
      | cons item rest ih =>
          refine ih fun l hl => ?_
          have hids := DataRow.map_nodeId_upsert (.ofItem item) rows
          rcases List.mem_append.mp hl with hold | hnew
          · have hstored := h l (List.mem_of_mem_filter hold)
            rw [hids]
            split
            · exact hstored
            · exact List.mem_append_left _ hstored
          · rw [LexemeRow.nodeId_of_mem_lexemeRowsOf hnew, hids]
            split
            · rename_i hmem
              exact hmem
            · exact List.mem_append_right _ (List.mem_singleton.mpr rfl)

end Write

namespace Database.NoOrphans

variable {names : TableNames} (hnames : names.Accepted) {db made : Database}

theorem empty (names : TableNames) : NoOrphans names .empty := fun _ h => by cases h

/-- Putting an empty table where there is none. -/
theorem put_absent (h : db.NoOrphans names) {name : String} (habsent : db.table? name = none)
    {table : Table} (hempty : ∀ rows, table = .lexemes rows → rows = []) :
    (db.put name table).NoOrphans names := by
  intro rows hrows row hrow
  rw [table?_put] at hrows
  split at hrows
  · rw [hempty rows (Option.some.inj hrows)] at hrow
    cases hrow
  · have hstored := h rows hrows row hrow
    by_cases hdata : names.data = name
    · rw [hdata, rowsOf_eq_nil (by simp [habsent])] at hstored
      cases hstored
    · rwa [rowsOf_congr (table?_put_of_ne _ _ hdata)]

/-- One part of the schema makes no lexeme rows. -/
theorem part (h : db.NoOrphans names) {others : TableNames} {part : SchemaPart}
    (hmade : part.Made others db made) : made.NoOrphans names := by
  cases hmade with
  | present | documentIndex | lexemeIndex => exact h
  | dataTable absent => exact h.put_absent absent fun rows heq => by cases heq
  | lexemeTable absent => exact h.put_absent absent fun rows heq => (Table.lexemes.inj heq).symm

include hnames

/-- Filling an index from the data rows. -/
theorem fill (h : db.NoOrphans names) {others : TableNames} (hothers : others.Accepted)
    (hfree : ∀ rows, db.table? others.lexemes ≠ some (.data rows)) {a : Analyzer}
    {stored : List DataRow} (hstored : db.table? others.data = some (.data stored))
    {lexemes : List LexemeRow} (hfilled : Store.lexemeRowsOfRows a stored = .ok lexemes) :
    (db.put others.lexemes (.lexemes lexemes)).NoOrphans names := by
  intro rows hrows row hrow
  rw [table?_put] at hrows
  split at hrows
  · rename_i heq
    obtain rfl := Table.lexemes.inj (Option.some.inj hrows)
    obtain ⟨found, hfound, hid⟩ := LexemeRow.exists_of_mem_lexemeRowsOfRows hfilled hrow
    rw [(TableNames.lexemes_eq_iff hnames hothers).mp heq,
      rowsOf_congr (table?_put_of_ne _ _ (TableNames.lexemes_ne_data hothers).symm),
      rowsOf_eq hstored, ← hid]
    exact List.mem_map_of_mem hfound
  · have hold := h rows hrows row hrow
    by_cases hdata : names.data = others.lexemes
    · rw [hdata, rowsOf_eq_nil hfree] at hold
      cases hold
    · rwa [rowsOf_congr (table?_put_of_ne _ _ hdata)]

/-- **An opening** leaves no lexemes without their row. -/
theorem openOn (h : db.NoOrphans names) (p : StoreParams) :
    (Store.openOn p db).2.NoOrphans names := by
  cases hname : TableNames.ofName p.tableName with
  | error e => rwa [openOn_of_refused hname]
  | ok others =>
      have hothers : others.Accepted := ⟨_, hname⟩
      -- a table that is filled was not there before, so it is no data table
      refine (openOn_keeps_filling hname db (P := fun made => made.NoOrphans names ∧
        (Store.isIndexed others db = false →
          ∀ rows, made.table? others.lexemes ≠ some (.data rows)))
        ?_ ?_ ⟨h, by simp +contextual [Store.isIndexed]⟩).1
      · intro mid made part hpart hboth
        obtain ⟨hmid, hfree⟩ := hboth
        exact ⟨hmid.part hpart, fun habsent => hpart.lexemes_ne_data hothers (hfree habsent)⟩
      · intro habsent made lexemes hfill hboth
        obtain ⟨hmade, hfree⟩ := hboth
        obtain ⟨rows, hrows, hfill⟩ := bind_eq_ok_iff.mp hfill
        obtain ⟨filled, hfilled, hfill⟩ := bind_eq_ok_iff.mp hfill
        rw [← Except.ok.inj hfill]
        exact ⟨hmade.fill hnames hothers (hfree habsent) (table?_of_dataRows hrows) hfilled,
          by simp⟩

/-- **A write** leaves no lexemes without their row, if the store looks at the index there is. -/
theorem write (h : db.NoOrphans names) {s : Store} {w : Write} {rows : List DataRow}
    (hequipped : Equipped s db) (hleaves : s.Leaves w rows db made)
    (hrows : db.table? s.names.data = some (.data rows)) (hkeeps : KeepsIndex names s db w) :
    made.NoOrphans names := by
  intro after hafter row hrow
  rw [hleaves.rowsOf hequipped hrows]
  by_cases hown : s.names = names
  · -- the index of the store itself
    subst hown
    rw [if_pos rfl, rowsOf_eq hrows]
    cases hhybrid : s.hybrid with
    | true =>
        obtain ⟨lexemes, hlexemes⟩ := hequipped.index hhybrid
        rw [hleaves.index hhybrid lexemes hlexemes] at hafter
        obtain rfl := Table.lexemes.inj (Option.some.inj hafter)
        refine w.nodeId_mem_rowsAfter (fun l hl => ?_) row hrow
        have hstored := h lexemes hlexemes l hl
        rwa [rowsOf_eq hrows] at hstored
    | false =>
        rw [hleaves.others _ (TableNames.lexemes_ne_data hnames) (by simp [hhybrid])] at hafter
        exact absurd hafter (hkeeps rfl hhybrid after)
  · have hdata : s.names.data ≠ names.data := fun heq =>
      hown (TableNames.eq_of_data_eq hequipped.accepted hnames heq)
    rw [if_neg hdata]
    refine h after ?_ row hrow
    by_cases hplace : names.lexemes = s.names.data
    · rw [hplace, hleaves.data] at hafter
      cases hafter
    · rwa [hleaves.others names.lexemes hplace fun _ heq =>
        hdata ((TableNames.lexemes_eq_iff hnames hequipped.accepted).mp heq).symm] at hafter

end Database.NoOrphans

/-! ## Sessions -/

/-- As long as stores keep the index, no lexemes are without their row. -/
theorem maintained_noOrphans {names : TableNames} (hnames : names.Accepted) :
    Session.Maintained (fun db => WellShaped db ∧ db.NoOrphans names) Equipped (fun _ => True)
      (KeepsIndex names) :=
  maintained_beside_of (.empty names) (fun p _ h => h.openOn hnames p)
    fun hequipped hleaves hrows hkeeps h => h.write hnames hequipped hleaves hrows hkeeps

/-- **No lexemes without their row**, in every state of every run in which stores keep the index. -/
theorem Session.Run.noOrphans {start s : Session} (hstart : start.Fresh) {names : TableNames}
    (hnames : names.Accepted) (run : Session.Run (fun _ => True) (KeepsIndex names) start s)
    {db : Database} (hdb : s.Has db) : db.NoOrphans names :=
  ((run.upheld_of_fresh (maintained_noOrphans hnames) hstart).good_of_has
    ⟨wellShaped_empty, .empty names⟩ hdb).2

end HybridRetrieval
