import HybridRetrieval.Proofs.Disk.Reopening
import HybridRetrieval.Proofs.Session.Closed
import HybridRetrieval.Proofs.Store.LateIndex
/-!
# Enabling hybrid search late

In one session a store is opened on a file without hybrid search, written to, closed, opened again
with hybrid search and written to again.  In another one it is hybrid from the beginning, and the
same is written.  Then nobody can tell the two from each other: the data rows, the lexeme rows and
the answers to all queries are the same (`late_hybrid_eq_early`).

About the databases this is known (`alike_of_late`); here the file is followed through the session.
An open handle leads to the database of its path (`Opened`), a write changes that database
(`Opened.write`), and the next opening of the path finds it again (`opened_of_openAndWrite`).
-/

namespace HybridRetrieval

/-- Whatever stores do keeps databases tidy, beside what stores find in them. -/
theorem maintained_tidy :
    Session.Maintained (fun db => WellShaped db ∧ Tidy db) Equipped (fun _ => True)
      (fun _ _ _ => True) :=
  maintained_beside tidy_empty (fun p _ htidy => htidy.openOn p)
    fun hequipped hleaves _ htidy => htidy.write hequipped hleaves

namespace Session

/-- Under the name a store is open on the database of a path. -/
structure Opened (s : Session) (name : String) (store : Store) (path : String) (db : Database) :
    Prop where
  handle : ∃ number, s.handle? name = some (store, number) ∧
    s.connections[number]? = some (some (.file (Disk.databaseLocation path)))
  stored : s.disk.Stores path db

/-- The store of a handle, with what is behind its connection. -/
def behind? (s : Session) (name : String) : Option (Store × Connection) :=
  (s.handle? name).map fun handle => (handle.1, s.connection handle.2)

variable {s : Session} {name : String} {store : Store} {path : String} {db : Database}

/-- The database is behind the handle. -/
theorem Opened.behind? (h : s.Opened name store path db) :
    s.behind? name = some (store, some db) := by
  obtain ⟨number, hhandle, hplace⟩ := h.handle
  rw [Session.behind?, hhandle, Option.map_some, connection_file hplace h.stored.found]

/-- A write, also one that fails, leaves the handle on the database after it. -/
theorem Opened.write (h : s.Opened name store path db) (w : Write) :
    (s.perform (.write name w)).Opened name store path (store.databaseAfter db w) := by
  obtain ⟨number, hhandle, hplace⟩ := h.handle
  have hconnection := connection_file hplace h.stored.found
  rw [perform_write hhandle]
  cases hwrite : store.write w (some db) with
  | error e =>
      rw [Store.databaseAfter_of_error hwrite]
      rw [← hconnection] at hwrite
      rw [writeThrough_error hwrite]
      exact h
  | ok c =>
      obtain ⟨made, rfl⟩ := Store.exists_of_write hwrite
      rw [Store.databaseAfter_of_ok hwrite]
      rw [← hconnection] at hwrite
      rw [writeThrough_ok hwrite, setConnection_file hplace]
      exact ⟨⟨number, hhandle, hplace⟩, h.stored.put made⟩

/-- Writes one after the other. -/
theorem Opened.writes (h : s.Opened name store path db) (ws : List Write) :
    ((ws.map (.write name)).foldl perform s).Opened name store path (store.afterEach db ws) := by
  induction ws generalizing s db with
  | nil => exact h
  | cons w rest ih => exact ih (h.write w)

/-- Closing leaves the disk alone. -/
theorem disk_perform_close (s : Session) (name : String) :
    (s.perform (.close name)).disk = s.disk := by
  dsimp only [perform]
  split
  · rw [close_eq]
  · rfl

/-! ## Opening a file and writing to it -/

/-- Opens a store under a name and writes to it. -/
def openAndWrite (s : Session) (name : String) (p : StoreParams) (ws : List Write) : Session :=
  (Operation.openStore name p :: ws.map (.write name)).foldl perform s

variable {p : StoreParams} {names : TableNames} {made : Disk} {next : Database} {ws : List Write}

/-- **Opening a file** whose directory could be made, and writing to it. -/
theorem opened_of_openAndWrite (hfile : isPrivate p.database = false)
    (hname : TableNames.ofName p.tableName = .ok names)
    (hparent : s.disk.ensureParent p.database = .ok made)
    (hdb : made.databaseAt (Disk.databaseLocation p.database) = .ok db)
    (h : Store.openAndWrite p db ws = .ok (store, next)) :
    (s.openAndWrite name p ws).Opened name store p.database next := by
  obtain ⟨hopen, rfl⟩ := openAndWrite_eq_ok_iff.mp h
  rw [openAndWrite, List.foldl_cons]
  refine Opened.writes ?_ ws
  have hdisk := Disk.openStore_eq hname hparent hdb
  rw [hopen] at hdisk
  dsimp only [perform, openStore]
  rw [hfile, if_neg Bool.false_ne_true, hdisk]
  refine ⟨⟨s.connections.length, ?_, ?_⟩,
    (Disk.hasParent_of_ensureParent hparent).stores hdb _⟩
  · simp [setHandle, handle?]
  · simp [setHandle, addConnection]

/-- **Opening it again** after it was closed. -/
theorem Opened.reopen (h : s.Opened name store p.database db)
    (hfile : isPrivate p.database = false) (hname : TableNames.ofName p.tableName = .ok names)
    {again : Store} (hagain : Store.openAndWrite p db ws = .ok (again, next)) :
    ((s.perform (.close name)).openAndWrite name p ws).Opened name again p.database next := by
  refine opened_of_openAndWrite hfile hname ?_ (Disk.databaseAt_of_find? h.stored.found) hagain
  rw [disk_perform_close]
  exact h.stored.parent.ensureParent

/-- An opening of a file that succeeds opens the store on a database that is there. -/
theorem exists_of_openStore (hfile : isPrivate p.database = false) {handle : Store × Nat}
    (h : (s.openStore p).1 = .ok handle) :
    ∃ made db, s.disk.ensureParent p.database = .ok made ∧
      made.databaseAt (Disk.databaseLocation p.database) = .ok db ∧
      (Store.openOn p db).1 = .ok handle.1 := by
  refine Disk.exists_of_openStore ?_
  unfold openStore at h
  dsimp only at h
  rw [hfile, if_neg Bool.false_ne_true] at h
  split at h
  · rename_i opened disk hdisk
    rw [hdisk, ← Except.ok.inj h]
  · cases h

/-- A database that an opening finds was there before it made the directory, unless it is empty. -/
theorem Upheld.good_of_ensureParent {good : Database → Prop} {fits : Store → Database → Prop}
    (h : s.Upheld good fits) (hempty : good .empty) {place : Location}
    (hparent : s.disk.ensureParent path = .ok made) (hdb : made.databaseAt place = .ok db) :
    good db := by
  rcases (Disk.databaseAt_ok hdb).2 with hfound | ⟨-, rfl⟩
  · exact h.files place db ((Disk.database_ensureParent hparent place db).mp hfound)
  · exact hempty

end Session

/-- **It does not matter when hybrid search is enabled.**  In any state in which a store can be
opened as hybrid on a file, it can be opened without hybrid search, written to, closed and opened
again as hybrid with the same analyzer, whatever is written before and after.  The data rows and
their order, the lexeme rows and the answers to all queries are then the same as if the store had
been hybrid from the beginning.  (A private database ends with its connection, so it cannot be
opened again.) -/
theorem late_hybrid_eq_early {start s : Session} (hstart : start.Fresh) (run : start.AnyRun s)
    {p : StoreParams} (hfile : Session.isPrivate p.database = false) {handle : Store × Nat}
    (hopen : (s.openStore p.hybrid).1 = .ok handle) (name : String) (first last : List Write) :
    handle.1.hybrid = true ∧ ∃ late early,
      (((s.openAndWrite name p.plain first).perform (.close name)).openAndWrite name p.hybrid
        last).behind? name = some (handle.1, some late) ∧
      (s.openAndWrite name p.hybrid (first ++ last)).behind? name = some (handle.1, some early) ∧
      handle.1.Alike late early := by
  obtain ⟨made, db, hparent, hdb, hstore⟩ := Session.exists_of_openStore (p := p.hybrid) hfile hopen
  have hkept := (run.upheld_of_fresh maintained_wellKept hstart).good_of_ensureParent
    maintained_wellKept.empty hparent hdb
  obtain ⟨hshaped, htidy⟩ := (run.upheld_of_fresh maintained_tidy hstart).good_of_ensureParent
    maintained_tidy.empty hparent hdb
  obtain ⟨names, hname⟩ : ∃ names, TableNames.ofName p.tableName = .ok names := by
    cases hname : TableNames.ofName p.tableName with
    | ok names => exact ⟨names, rfl⟩
    | error e =>
        rw [openOn_of_refused (p := p.hybrid) hname] at hstore
        cases hstore
  obtain ⟨hhybrid, plain, mid, late, early, hfirst, hlast, hboth, halike⟩ :=
    alike_of_late hkept hshaped htidy hstore first last
  have hplain : (s.openAndWrite name p.plain first).Opened name plain p.database mid :=
    Session.opened_of_openAndWrite hfile hname hparent hdb hfirst
  have hlate := hplain.reopen (p := p.hybrid) hfile hname hlast
  have hearly :
      (s.openAndWrite name p.hybrid (first ++ last)).Opened name handle.1 p.database early :=
    Session.opened_of_openAndWrite hfile hname hparent hdb hboth
  exact ⟨hhybrid, late, early, hlate.behind?, hearly.behind?, halike⟩

/-- What a store in a directory of its own is opened with. -/
def StoreParams.inDirectory : StoreParams :=
  { database := "data/store", tableName := "t", embedDim := 0 }

/-- A text, one from a document, another text for the first node, and an item that is refused. -/
def Write.beforeEnabling : List Write :=
  [.add [.ofText "a" "red fox", .ofDocument "b" "grey hen" "doc"], .add [.ofText "a" "red hen"],
    .add [.ofEmbedding "c" [.one]]]

/-- The document goes, and another text comes. -/
def Write.afterEnabling : List Write := [.delete "doc", .add [.ofText "c" "grey fox"]]

/-- A session in which hybrid search is enabled between these writes. -/
def Session.withEnabling : Session :=
  ((({ disk := .empty } : Session).openAndWrite "h" StoreParams.inDirectory.plain
    Write.beforeEnabling).perform (.close "h")).openAndWrite "h" StoreParams.inDirectory.hybrid
      Write.afterEnabling

/-- The index is the same as if it had been there from the beginning. -/
theorem late_hybrid_eq_early_withEnabling :
    ∃ late early, Session.withEnabling.behind? "h" =
        some (⟨⟨"data_t", "data_t_lexemes"⟩, StoreParams.inDirectory.hybrid⟩, some late) ∧
      (({ disk := .empty } : Session).openAndWrite "h" StoreParams.inDirectory.hybrid
        (Write.beforeEnabling ++ Write.afterEnabling)).behind? "h" =
          some (⟨⟨"data_t", "data_t_lexemes"⟩, StoreParams.inDirectory.hybrid⟩, some early) ∧
      Store.Alike ⟨⟨"data_t", "data_t_lexemes"⟩, StoreParams.inDirectory.hybrid⟩ late early ∧
      late.table? "data_t" = some (.data
        ([.ofText "a" "red hen", .ofText "c" "grey fox"].map DataRow.ofItem)) := by
  have hopen : (({ disk := .empty } : Session).openStore StoreParams.inDirectory.hybrid).1 =
      .ok (⟨⟨"data_t", "data_t_lexemes"⟩, StoreParams.inDirectory.hybrid⟩, 0) := by rfl
  obtain ⟨-, late, early, hlate, hearly, halike⟩ := late_hybrid_eq_early Session.fresh_empty .refl
    (by decide) hopen "h" Write.beforeEnabling Write.afterEnabling
  refine ⟨late, early, hlate, hearly, halike, ?_⟩
  have hrows : (Session.withEnabling.behind? "h").map
      (fun handle => handle.2.map fun db => db.table? "data_t") = some (some (some (.data
        ([.ofText "a" "red hen", .ofText "c" "grey fox"].map DataRow.ofItem)))) := by rfl
  have hbehind : Session.withEnabling.behind? "h" = some (_, some late) := hlate
  rw [hbehind] at hrows
  exact Option.some.inj (Option.some.inj hrows)

end HybridRetrieval
