import HybridRetrieval.Proofs.Session.Effects
import Mathlib.Data.List.Induction
/-!
# What was added last

Beside the operations of a run an account can be kept of what is added: for each data table and each
identifier the last item that was added and the store it was added through (`lastAddition?`).  The
table holds nothing else (`exists_recorded`): its rows are those of items with distinct identifiers,
each the last addition under its own.
-/

namespace HybridRetrieval

namespace Session

/-- The store and the item by which an operation adds a node to a data table at a site. -/
def addition? (site : Site) (table id : String) (s : Session) (op : Operation) :
    Option (Store × Item) :=
  match s.change? site table op with
  | some (store, .add items) => (Item.last? id items).map fun item => (store, item)
  | some (_, .delete _) => none
  | none => none

/-- The store and the item by which operations last add a node to a data table at a site. -/
def lastAddition? (site : Site) (table id : String) :
    Session → List Operation → Option (Store × Item)
  | _, [] => none
  | s, op :: rest =>
    (lastAddition? site table id (s.perform op) rest).or (addition? site table id s op)

/-- One more operation adds the node last, if it does. -/
theorem lastAddition?_concat (site : Site) (table id : String) (s : Session) (ops : List Operation)
    (op : Operation) :
    lastAddition? site table id s (ops ++ [op]) =
      (addition? site table id (ops.foldl perform s) op).or
        (lastAddition? site table id s ops) := by
  induction ops generalizing s with
  | nil => simp [lastAddition?]
  | cons first rest ih =>
      rw [List.cons_append, lastAddition?, ih, List.foldl_cons, lastAddition?, Option.or_assoc]

/-- At first there are no rows anywhere. -/
theorem Fresh.rowsAt {start : Session} (h : start.Fresh) (site : Site) (table : String) :
    start.rowsAt site table = [] := by
  have hempty : ∀ db, start.databaseAt? site = some db → db = .empty := by
    intro db hdb
    cases site with
    | memory number =>
        rw [databaseAt?_memory, h.connections] at hdb
        cases hdb
    | file place => exact h.empty place db (Disk.databaseAt_of_find? (databaseAt?_file.mp hdb))
  cases hdb : start.databaseAt? site with
  | none => rw [Session.rowsAt, hdb]
  | some db =>
      obtain rfl := hempty db hdb
      rw [rowsAt_eq hdb]
      rfl

/-- The rows of a data table are those of items with distinct identifiers, each the last addition
under its own and of the length of the store it came through. -/
structure Recorded (site : Site) (table : String) (start : Session) (ops : List Operation)
    (items : List Item) : Prop where
  rows : (ops.foldl perform start).rowsAt site table = items.map DataRow.ofItem
  distinct : (items.map Item.id).Nodup
  last : ∀ item ∈ items, ∃ adder, lastAddition? site table item.id start ops = some (adder, item) ∧
    item.embedding.length = adder.params.embedDim

/-- **A write** of the right lengths is recorded. -/
theorem Recorded.write {site : Site} {table : String} {start : Session} {ops : List Operation}
    {items : List Item} (h : Recorded site table start ops items) {op : Operation} {store : Store}
    {w : Write} (hchange : (ops.foldl perform start).change? site table op = some (store, w))
    (hfits : w.Fits store.params.embedDim)
    (hafter : ((ops.foldl perform start).perform op).rowsAt site table =
      w.rowsAfter ((ops.foldl perform start).rowsAt site table)) :
    Recorded site table start (ops ++ [op]) (w.applyTo items) where
  rows := by
    rw [List.foldl_append, List.foldl_cons, List.foldl_nil, hafter, h.rows, w.rowsAfter_ofItem]
  distinct := w.nodup_applyTo h.distinct
  last := by
    intro item hitem
    rw [lastAddition?_concat, addition?, hchange]
    cases w with
    | add new =>
        have hstored := (Item.stored?_eq_some_iff ((Write.add new).nodup_applyTo h.distinct)).mpr
          ⟨hitem, rfl⟩
        rw [Write.applyTo, Write.stored?_foldl_upsert] at hstored
        cases hlast : Item.last? item.id new with
        | some added =>
            rw [hlast, Option.some_or] at hstored
            obtain rfl := Option.some.inj hstored
            exact ⟨store, by simp [hlast], hfits added (Item.mem_of_last? hlast).1⟩
        | none =>
            rw [hlast, Option.none_or] at hstored
            simpa [hlast] using h.last item ((Item.stored?_eq_some_iff h.distinct).mp hstored).1
    | delete docId =>
        have hmem : item ∈ items := List.mem_of_mem_filter hitem
        simpa using h.last item hmem

/-- **Every data table holds what was added last**, after whatever operations. -/
theorem exists_recorded {start : Session} (hstart : start.Fresh) (site : Site) (table : String)
    (ops : List Operation) : ∃ items, Recorded site table start ops items := by
  -- from the last operation on, since that is the one that may have added a node last
  induction ops using List.reverseRecOn with
  | nil => exact ⟨[], hstart.rowsAt site table, List.nodup_nil, by simp⟩
  | append_singleton ops op ih =>
      obtain ⟨items, hrecorded⟩ := ih
      have hequipped := (anyRun_foldl ops start).edited.equipped hstart
      rcases hequipped.rowsAt_perform site table op with
        ⟨store, w, hchange, hfits, hafter⟩ | ⟨hquiet, hafter⟩
      · exact ⟨_, hrecorded.write hchange hfits hafter⟩
      · have hsame : ∀ id, lastAddition? site table id start (ops ++ [op]) =
            lastAddition? site table id start ops := by
          intro id
          rw [lastAddition?_concat, addition?, hquiet, Option.none_or]
        rcases hafter with hkept | hgone
        · refine ⟨items, ?_, hrecorded.distinct, ?_⟩
          · rw [List.foldl_append, List.foldl_cons, List.foldl_nil, hkept]
            exact hrecorded.rows
          · intro item hitem
            rw [hsame]
            exact hrecorded.last item hitem
        · refine ⟨[], ?_, List.nodup_nil, by simp⟩
          rw [List.foldl_append, List.foldl_cons, List.foldl_nil, rowsAt, hgone]
          rfl

end Session

end HybridRetrieval
