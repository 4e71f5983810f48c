import HybridRetrieval.Proofs.Session.Keyed
import HybridRetrieval.Proofs.Session.LastAdditions
import HybridRetrieval.Proofs.Store.Deletion
import HybridRetrieval.Proofs.Store.Matches
/-!
# Deleting documents in a session

A deletion looks at the document that is stored beside a row.  Since the rows of a table are those
of what was added last (`Session.exists_recorded`), it takes away exactly the items whose last
addition names the document as their source.

What is deleted is gone for good.  As long as no write to the table adds its identifier again
(`Write.Omits`, `Session.Writing`), the table lacks it (`Session.Lacks`), so no query through any
handle on the table returns it (`Lacks.ne_of_query`).
-/

namespace HybridRetrieval

/-- A write that does not add an identifier. -/
def Write.Omits (id : String) : Write → Prop
  | add new => ∀ item ∈ new, item.id ≠ id
  | delete _ => True

/-- A write that omits an identifier gives it to no row. -/
theorem Write.nodeId_not_mem_rowsAfter {id : String} {w : Write} (hw : w.Omits id)
    {rows : List DataRow} (h : .text id ∉ rows.map DataRow.nodeId) :
    .text id ∉ (w.rowsAfter rows).map DataRow.nodeId := by
  cases w with
  | delete docId => exact fun hmem => h ((List.filter_sublist.map _).subset hmem)
  | add new =>
      rw [Write.rowsAfter]
      induction new generalizing rows with
      | nil => exact h
      | cons item rest ih =>
          have hother : Cell.text id ≠ (DataRow.ofItem item).nodeId :=
            fun heq => hw item List.mem_cons_self (Cell.text.inj heq).symm
          refine ih ?_ fun later hlater => hw later (List.mem_cons_of_mem _ hlater)
          rw [DataRow.map_nodeId_upsert]
          split
          · exact h
          · simpa [hother] using h

namespace Session

/-- What operations lead to whose writes to a data table at a site are all allowed. -/
inductive Writing (site : Site) (table : String) (allowed : Write → Prop) (start : Session) :
    Session → Prop
  | refl : Writing site table allowed start start
  | step {s : Session} {op : Operation} (writing : Writing site table allowed start s)
      (allows : ∀ store w, s.change? site table op = some (store, w) → allowed w) :
      Writing site table allowed start (s.perform op)

/-- The data table has no row of the node. -/
structure Lacks (site : Site) (table id : String) (s : Session) : Prop where
  equipped : s.Upheld WellShaped Equipped
  absent : .text id ∉ (s.rowsAt site table).map DataRow.nodeId

variable {site : Site} {table id : String}

/-- **An operation that does not add the node** leaves the table without it. -/
theorem Lacks.perform {s : Session} (h : s.Lacks site table id) {op : Operation}
    (homits : ∀ store w, s.change? site table op = some (store, w) → w.Omits id) :
    (s.perform op).Lacks site table id where
  equipped := h.equipped.perform maintained_equipped (s.permits_any op)
  absent := by
    rcases h.equipped.rowsAt_perform site table op with
      ⟨store, w, hchange, -, hafter⟩ | ⟨-, hsame | hgone⟩
    · rw [hafter]
      exact Write.nodeId_not_mem_rowsAfter (homits store w hchange) h.absent
    · rw [hsame]
      exact h.absent
    · rw [rowsAt, hgone]
      exact List.not_mem_nil

/-- Operations that do not add the node leave the table without it. -/
theorem Lacks.of_writing {start s : Session} (h : start.Lacks site table id)
    (run : Writing site table (Write.Omits id) start s) : s.Lacks site table id := by
  induction run with
  | refl => exact h
  | step _ allows ih => exact ih.perform allows

/-- A handle finds the rows at its site. -/
theorem Upheld.rowsBehind_eq {good : Database → Prop} {fits : Store → Database → Prop} {s : Session}
    (h : s.Upheld good fits) (store : Store) {number : Nat} (hsite : s.site? number = some site) :
    store.rowsBehind (s.connection number) = s.rowsAt site store.names.data := by
  rw [(h.connection_eq hsite).1]
  rfl

/-- A connection that leads nowhere is closed. -/
theorem connection_of_site?_eq_none {s : Session} {number : Nat} (h : s.site? number = none) :
    s.connection number = none := by
  cases hdb : s.connection number with
  | none => rfl
  | some db =>
      obtain ⟨site, hsite⟩ := exists_site hdb
      rw [h] at hsite
      cases hsite

/-- **A query does not return a node that the table lacks**, whichever handle on the table it goes
through. -/
theorem Lacks.ne_of_query {s : Session} (h : s.Lacks site table id) {handle : Store × Nat}
    (hsite : ∀ place, s.site? handle.2 = some place → place = site)
    (htable : handle.1.names.data = table) {q : Query} {r : QueryResult}
    (hr : handle.1.query q (s.connection handle.2) = .ok r) : ∀ node ∈ r.nodes, node.id ≠ id := by
  rintro node hnode rfl
  have hstored := Store.nodeId_mem_of_query hr hnode
  cases hplace : s.site? handle.2 with
  | none =>
      rw [connection_of_site?_eq_none hplace] at hstored
      cases hstored
  | some place =>
      obtain rfl := hsite place hplace
      rw [h.equipped.rowsBehind_eq handle.1 hplace, htable] at hstored
      exact h.absent hstored

/-- Storing twice behind a connection is storing once. -/
theorem setConnection_again {s : Session} {number : Nat} {db : Database}
    (h : s.connection number = some db) (next : Database) :
    (s.setConnection number (some next)).setConnection number (some next) =
      s.setConnection number (some next) := by
  rcases connection_eq_some h with hmemory | ⟨place, hplace, -⟩
  · have hlt := (List.getElem?_eq_some_iff.mp hmemory).1
    rw [setConnection_memory hmemory]
    simp [setConnection, hlt]
  · rw [setConnection_file hplace]
    simp [setConnection, hplace, Disk.put_put]

/-- Handles keep their names when something is stored. -/
theorem handle?_setConnection (s : Session) (number : Nat) (c : Connection) (name : String) :
    (s.setConnection number c).handle? name = s.handle? name := by
  unfold setConnection
  split <;> rfl

end Session

/-- **Deleting a document.**  After any operations, an open handle has the rows of items, each the
last addition under its identifier.  A deletion takes away exactly those whose source is the
document, with their lexemes; an item without a source has no such document.  Nothing else changes,
in the database or elsewhere.  Deleting again changes nothing at all.  And until a deleted node is
added again, no query in any mode returns it, through any handle on the table. -/
theorem delete_document {start s : Session} (hstart : start.Fresh) {ops : List Operation}
    (hops : ops.foldl Session.perform start = s) {name : String} {handle : Store × Nat}
    (hhandle : s.handle? name = some handle) {site : Site} (hsite : s.site? handle.2 = some site)
    (docId : String) :
    ∃ db made items, s.connection handle.2 = some db ∧
      db.table? handle.1.names.data = some (.data (items.map DataRow.ofItem)) ∧
      (items.map Item.id).Nodup ∧
      (∀ item ∈ items, ∃ adder, Session.lastAddition? site handle.1.names.data item.id start ops =
        some (adder, item)) ∧
      handle.1.delete docId (some db) = .ok (some made) ∧
      (s.perform (.write name (.delete docId))).connection handle.2 = some made ∧
      handle.1.Deletes docId items db made ∧
      (∀ other, other ≠ site →
        (s.perform (.write name (.delete docId))).databaseAt? other = s.databaseAt? other) ∧
      handle.1.delete docId (some made) = .ok (some made) ∧
      (s.perform (.write name (.delete docId))).perform (.write name (.delete docId)) =
        s.perform (.write name (.delete docId)) ∧
      ∀ item ∈ items, item.node.refDocId = some docId → ∀ later,
        Session.Writing site handle.1.names.data (Write.Omits item.id)
          (s.perform (.write name (.delete docId))) later →
        ∀ reader : Store × Nat, (∀ place, later.site? reader.2 = some place → place = site) →
          reader.1.names.data = handle.1.names.data →
          ∀ q r, reader.1.query q (later.connection reader.2) = .ok r →
            ∀ node ∈ r.nodes, node.id ≠ item.id := by
  subst hops
  have hequipped := (Session.anyRun_foldl ops start).edited.equipped hstart
  obtain ⟨db, rows, hconnection, hdb, htables, hrows, hsame⟩ :=
    hequipped.exists_tables hhandle hsite
  obtain ⟨items, hrecorded⟩ := Session.exists_recorded hstart site handle.1.names.data ops
  obtain rfl := hsame.symm.trans hrecorded.rows
  obtain ⟨made, hdelete, hdeletes⟩ := Store.delete_of_equipped htables hrows docId
  have hagain := Store.delete_again htables.accepted hdelete
  have hafter : (ops.foldl Session.perform start).perform (.write name (.delete docId)) =
      (ops.foldl Session.perform start).setConnection handle.2 (some made) := by
    rw [Session.perform_write hhandle]
    exact Session.writeThrough_ok (by rw [hconnection]; exact hdelete)
  have hmade := hequipped.connection_store hconnection made
  have hat := hequipped.databaseAt?_setConnection hsite made
  refine ⟨db, made, items, hconnection, hrows, hrecorded.distinct, ?_, hdelete, ?_, hdeletes, ?_,
    hagain, ?_, ?_⟩
  · intro item hitem
    obtain ⟨adder, hlast, -⟩ := hrecorded.last item hitem
    exact ⟨adder, hlast⟩
  · rw [hafter, hmade]
  · intro other hother
    rw [hafter, hat, if_neg hother]
  · rw [hafter, Session.perform_write
      ((Session.handle?_setConnection _ _ _ name).trans hhandle)]
    rw [Session.writeThrough_ok (c := some made) (by rw [hmade]; exact hagain)]
    exact Session.setConnection_again hconnection made
  · intro item hitem hdoc later hlater reader hplace htable q r hr
    have hlacks : Session.Lacks site handle.1.names.data item.id
        ((ops.foldl Session.perform start).perform (.write name (.delete docId))) := by
      refine ⟨hequipped.perform maintained_equipped (Session.permits_any _ _), ?_⟩
      rw [hafter, Session.rowsAt_eq ((hat site).trans (if_pos rfl)),
        Database.rowsOf_eq hdeletes.data, List.map_map]
      -- the item that is deleted is the only one with its identifier
      intro hmem
      obtain ⟨other, hother, hid⟩ := List.mem_map.mp hmem
      obtain ⟨hstored, hkept⟩ := List.mem_filter.mp hother
      obtain rfl := List.inj_on_of_nodup_map hrecorded.distinct hstored hitem (Cell.text.inj hid)
      exact of_decide_eq_true hkept hdoc
    exact (hlacks.of_writing hlater).ne_of_query hplace htable hr

/-- Operations by which an item is added to a hybrid store in memory, and added again as one of
another document. -/
def Operation.refiling : List Operation :=
  [.openStore "h" (Store.ofAnalyzer .english).params,
    .write "h" (.add [.ofDocument "a" "fox" "old"]),
    .write "h" (.add [.ofDocument "a" "hen" "new"])]

/-- The item goes with its new document. -/
theorem delete_document_refiling :
    ∃ made, ((Operation.refiling.foldl Session.perform { disk := .empty }).perform
      (.write "h" (.delete "new"))).connection 0 = some made ∧
        made.table? "data_t" = some (.data []) := by
  have hhandle : (Operation.refiling.foldl Session.perform { disk := .empty }).handle? "h" =
      some (.ofAnalyzer .english, 0) := by rfl
  have hsite : (Operation.refiling.foldl Session.perform { disk := .empty }).site? 0 =
      some (.memory 0) := by rfl
  have hstored : ((Operation.refiling.foldl Session.perform { disk := .empty }).connection 0).bind
      (fun db => db.table? "data_t") =
        some (.data [.ofItem (.ofDocument "a" "hen" "new")]) := by rfl
  have hadded : Session.lastAddition? (.memory 0) "data_t" "a" { disk := .empty }
      Operation.refiling = some (.ofAnalyzer .english, .ofDocument "a" "hen" "new") := by rfl
  obtain ⟨db, made, items, hdb, hrows, -, hlast, -, hmade, hdeletes, -⟩ :=
    delete_document Session.fresh_empty rfl hhandle hsite "new"
  refine ⟨made, hmade, ?_⟩
  rw [hdb, Option.bind_some] at hstored
  have hone := Table.data.inj (Option.some.inj (hrows.symm.trans hstored))
  obtain ⟨item, rfl, hrow⟩ := List.map_eq_singleton_iff.mp hone
  -- the account of additions tells which item it is
  have hid : item.id = "a" := Cell.text.inj (congrArg DataRow.nodeId hrow)
  obtain ⟨adder, hitem⟩ := hlast item (List.mem_singleton_self item)
  rw [hid] at hitem
  obtain ⟨-, rfl⟩ := Prod.mk.inj (Option.some.inj (hadded.symm.trans hitem))
  exact hdeletes.data

end HybridRetrieval
