import HybridRetrieval.Proofs.Disk.Databases
import HybridRetrieval.Proofs.Store.Stocked
import HybridRetrieval.Session.Operation
/-!
# Runs of a session

A run performs one operation after the other (`Run`); which openings and writes may occur in it is
said by two predicates.  Handles see databases only through their connections, so what is to hold
throughout a run splits into a property of databases and a relation between a store and the database
behind its handle (`Upheld`).

Both have to survive an opening and a write, whoever does it (`Maintained`).  From that a single
operation keeps them on every disk, connection and handle of the session (`Upheld.perform`), and so
does a whole run (`Run.upheld`).
-/

namespace HybridRetrieval

namespace Session

/-- The operations that may occur: openings and writes are restricted, all others are free. -/
def Permits (opens : StoreParams → Prop) (writes : Store → Database → Write → Prop) (s : Session) :
    Operation → Prop
  | .openStore _ p => opens p
  | .write name w => ∀ handle, s.handle? name = some handle →
      ∀ db, s.connection handle.2 = some db → writes handle.1 db w
  | .clone _ _ | .query _ _ | .get _ _ | .count _ | .stats _ | .close _ => True

/-- The sessions that permitted operations lead to. -/
inductive Run (opens : StoreParams → Prop) (writes : Store → Database → Write → Prop)
    (start : Session) : Session → Prop where
  | refl : Run opens writes start start
  | step {s : Session} {op : Operation} (run : Run opens writes start s)
      (permits : s.Permits opens writes op) : Run opens writes start (s.perform op)

/-- A run is one under weaker restrictions as well. -/
theorem Run.imp {opens : StoreParams → Prop} {writes others : Store → Database → Write → Prop}
    {start s : Session} (run : Run opens writes start s)
    (h : ∀ store db w, writes store db w → others store db w) : Run opens others start s := by
  induction run with
  | refl => exact .refl
  | @step s op _ permits ih =>
      refine ih.step ?_
      cases op with
      | write name w => exact fun handle hhandle db hdb => h _ _ _ (permits handle hhandle db hdb)
      | openStore | clone | query | get | count | stats | close => exact permits

/-- A database that the session can use: on its disk, or behind a connection. -/
def Has (s : Session) (db : Database) : Prop :=
  (∃ place, s.disk.databaseAt place = .ok db) ∨ ∃ number, s.connection number = some db

/-- What holds throughout a run: every database is good, every connection to a file finds one there,
and every store fits the database behind its handle. -/
structure Upheld (good : Database → Prop) (fits : Store → Database → Prop)
    (s : Session) : Prop where
  files : ∀ place db, s.disk.find? place = some (.database db) → good db
  memory : ∀ (number : Nat) db, s.connections[number]? = some (some (.memory db)) → good db
  connected : ∀ (number : Nat) place, s.connections[number]? = some (some (.file place)) →
    ∃ db, s.disk.find? place = some (.database db)
  handles : ∀ name handle, s.handle? name = some handle → handle.2 < s.connections.length ∧
    ∀ db, s.connection handle.2 = some db → fits handle.1 db

/-- What openings and writes have to keep: the database stays good, and whatever store fitted it
still does. -/
structure Maintained (good : Database → Prop) (fits : Store → Database → Prop)
    (opens : StoreParams → Prop) (writes : Store → Database → Write → Prop) : Prop where
  empty : good .empty
  opening : ∀ p db, opens p → good db → good (Store.openOn p db).2 ∧
    (∀ store, (Store.openOn p db).1 = .ok store → fits store (Store.openOn p db).2) ∧
    ∀ other, fits other db → fits other (Store.openOn p db).2
  writing : ∀ store db w c, good db → fits store db → writes store db w →
    store.write w (some db) = .ok c → ∃ next, c = some next ∧ good next ∧
      ∀ other, fits other db → fits other next

/-- A session in which nothing has been opened and all databases are empty. -/
structure Fresh (s : Session) : Prop where
  connections : s.connections = []
  handles : s.handles = []
  empty : ∀ place db, s.disk.databaseAt place = .ok db → db = .empty

/-- An empty disk has empty databases only. -/
theorem fresh_empty : Fresh { disk := .empty } := by
  refine ⟨rfl, rfl, ?_⟩
  intro place db hdb
  rcases (Disk.databaseAt_ok hdb).2 with hfound | ⟨-, rfl⟩
  · by_cases hplace : place = [] <;> simp [Disk.find?, Disk.empty, hplace] at hfound
  · rfl

/-! ## Connections -/

/-- An open connection leads to a private database or to a file. -/
theorem connection_eq_some {s : Session} {number : Nat} {db : Database}
    (h : s.connection number = some db) :
    s.connections[number]? = some (some (.memory db)) ∨
      ∃ place, s.connections[number]? = some (some (.file place)) ∧
        s.disk.databaseAt place = .ok db := by
  unfold connection at h
  split at h
  · rename_i found hfound
    obtain rfl := Option.some.inj h
    exact Or.inl hfound
  · rename_i place hfound
    refine Or.inr ⟨place, hfound, ?_⟩
    cases hdb : s.disk.databaseAt place with
    | error e =>
        rw [hdb] at h
        cases h
    | ok found =>
        rw [hdb] at h
        rw [Option.some.inj h]
  · cases h

theorem connection_memory {s : Session} {number : Nat} {db : Database}
    (h : s.connections[number]? = some (some (.memory db))) : s.connection number = some db := by
  rw [connection, h]

theorem connection_file {s : Session} {number : Nat} {place : Location} {db : Database}
    (h : s.connections[number]? = some (some (.file place)))
    (hdb : s.disk.find? place = some (.database db)) : s.connection number = some db := by
  simp [connection, h, Disk.databaseAt_of_find? hdb, Except.toOption]

/-- A new connection changes nothing for the old ones. -/
theorem connection_addConnection_of_lt (s : Session) (place : DatabasePlace) {number : Nat}
    (h : number < s.connections.length) :
    (s.addConnection place).connection number = s.connection number := by
  simp [connection, addConnection, List.getElem?_append_left h]

/-- Storing behind a connection to a private database replaces it. -/
theorem setConnection_memory {s : Session} {number : Nat} {db : Database}
    (h : s.connections[number]? = some (some (.memory db))) (next : Database) :
    s.setConnection number (some next) =
      { s with connections := s.connections.set number (some (.memory next)) } := by
  simp [setConnection, h]

/-- Storing behind a connection to a file puts the database there. -/
theorem setConnection_file {s : Session} {number : Nat} {place : Location}
    (h : s.connections[number]? = some (some (.file place))) (next : Database) :
    s.setConnection number (some next) =
      { s with disk := s.disk.put place (.database next) } := by
  simp [setConnection, h]

/-- A write that fails changes nothing. -/
theorem writeThrough_error {s : Session} {handle : Store × Nat} {w : Write} {e : Error}
    (h : handle.1.write w (s.connection handle.2) = .error e) : s.writeThrough handle w = s := by
  simp [writeThrough, Session.write, h, bind, Except.bind]

/-- A write that succeeds changes what is behind the connection. -/
theorem writeThrough_ok {s : Session} {handle : Store × Nat} {w : Write} {c : Connection}
    (h : handle.1.write w (s.connection handle.2) = .ok c) :
    s.writeThrough handle w = s.setConnection handle.2 c := by
  simp [writeThrough, Session.write, h, bind, Except.bind, pure, Except.pure]

/-- Writing under the name of a handle is writing through the handle. -/
theorem perform_write {s : Session} {name : String} {handle : Store × Nat}
    (h : s.handle? name = some handle) (w : Write) :
    s.perform (.write name w) = s.writeThrough handle w := by
  simp [perform, h]

namespace Upheld

variable {good : Database → Prop} {fits : Store → Database → Prop} {s : Session}

/-- Every database that can be used is good. -/
theorem good_of_has (h : Upheld good fits s) (hempty : good .empty) {db : Database}
    (hdb : s.Has db) : good db := by
  have hat : ∀ place, s.disk.databaseAt place = .ok db → good db := by
    intro place hplace
    rcases (Disk.databaseAt_ok hplace).2 with hfound | ⟨-, rfl⟩
    · exact h.files place db hfound
    · exact hempty
  rcases hdb with ⟨place, hplace⟩ | ⟨number, hnumber⟩
  · exact hat place hplace
  · rcases connection_eq_some hnumber with hmemory | ⟨place, -, hplace⟩
    · exact h.memory number db hmemory
    · exact hat place hplace

/-- Behind a connection to a file is the database that is stored there. -/
theorem find?_of_connection (h : Upheld good fits s) {number : Nat} {place : Location}
    {db : Database} (hplace : s.connections[number]? = some (some (.file place)))
    (hdb : s.connection number = some db) : s.disk.find? place = some (.database db) := by
  obtain ⟨found, hfound⟩ := h.connected number place hplace
  rw [connection_file hplace hfound] at hdb
  rw [← Option.some.inj hdb]
  exact hfound

/-- A session without connections and handles, on good databases. -/
theorem of_idle (hconnections : s.connections = []) (hhandles : s.handles = [])
    (hfiles : ∀ place db, s.disk.find? place = some (.database db) → good db) :
    Upheld good fits s where
  files := hfiles
  memory number db hdb := by
    rw [hconnections] at hdb
    cases hdb
  connected number place hplace := by
    rw [hconnections] at hplace
    cases hplace
  handles name handle hhandle := by
    rw [Session.handle?, hhandles] at hhandle
    cases hhandle

/-- A fresh session holds whatever holds of the empty database. -/
theorem of_fresh (h : s.Fresh) (hempty : good .empty) : Upheld good fits s :=
  .of_idle h.connections h.handles fun place db hdb => by
    rw [h.empty place db (Disk.databaseAt_of_find? hdb)]
    exact hempty

/-! ## What changes a session -/

/-- Adding a connection to a good database or to a file. -/
theorem addConnection (h : Upheld good fits s) (place : DatabasePlace)
    (hmemory : ∀ db, place = .memory db → good db)
    (hfile : ∀ location, place = .file location →
      ∃ db, s.disk.find? location = some (.database db)) :
    Upheld good fits (s.addConnection place) := by
  have hcases : ∀ (number : Nat) found,
      (s.addConnection place).connections[number]? = some (some found) →
        s.connections[number]? = some (some found) ∨ place = found := by
    intro number found hfound
    rw [Session.addConnection, List.getElem?_append] at hfound
    split at hfound
    · exact Or.inl hfound
    · right
      have hmem := List.mem_of_getElem? hfound
      simpa [eq_comm] using hmem
  refine ⟨h.files, ?_, ?_, ?_⟩
  · intro number db hdb
    rcases hcases number _ hdb with hold | hnew
    · exact h.memory number db hold
    · exact hmemory db hnew
  · intro number location hlocation
    rcases hcases number _ hlocation with hold | hnew
    · exact h.connected number location hold
    · exact hfile location hnew
  · intro name handle hhandle
    obtain ⟨hlt, hfits⟩ := h.handles name handle hhandle
    refine ⟨?_, ?_⟩
    · rw [Session.addConnection, List.length_append]
      omega
    · rw [connection_addConnection_of_lt s place hlt]
      exact hfits

/-- Naming a handle whose store fits its database. -/
theorem setHandle (h : Upheld good fits s) (name : String) {handle : Store × Nat}
    (hlt : handle.2 < s.connections.length)
    (hfits : ∀ db, s.connection handle.2 = some db → fits handle.1 db) :
    Upheld good fits (s.setHandle name handle) := by
  refine ⟨h.files, h.memory, h.connected, ?_⟩
  intro other found hfound
  rw [Session.setHandle, handle?, List.lookup_cons] at hfound
  split at hfound
  · obtain rfl := Option.some.inj hfound
    exact ⟨hlt, hfits⟩
  · exact h.handles other found hfound

/-- Changing the disk in a way that keeps every database good and every store fitting. -/
theorem withDisk (h : Upheld good fits s) {disk : Disk}
    (hgood : ∀ place db, disk.find? place = some (.database db) → good db)
    (hkeep : ∀ place db, s.disk.find? place = some (.database db) →
      ∃ next, disk.find? place = some (.database next) ∧ ∀ store, fits store db → fits store next) :
    Upheld good fits { s with disk := disk } := by
  refine ⟨hgood, h.memory, ?_, ?_⟩
  · intro number place hplace
    obtain ⟨db, hdb⟩ := h.connected number place hplace
    obtain ⟨next, hnext, -⟩ := hkeep place db hdb
    exact ⟨next, hnext⟩
  · intro name handle hhandle
    obtain ⟨hlt, hfits⟩ := h.handles name handle hhandle
    refine ⟨hlt, ?_⟩
    intro db hdb
    rcases connection_eq_some hdb with hmemory | ⟨place, hplace, hat⟩
    · exact hfits db (connection_memory hmemory)
    · obtain ⟨old, hold⟩ := h.connected handle.2 place hplace
      obtain ⟨next, hnext, hstill⟩ := hkeep place old hold
      have hdbnext : db = next := by
        rw [Disk.databaseAt_of_find? hnext] at hat
        exact (Except.ok.inj hat).symm
      rw [hdbnext]
      exact hstill _ (hfits old (connection_file hplace hold))

/-- Changing one connection: it is closed, or its private database is replaced. -/
theorem setOne (h : Upheld good fits s) {number : Nat} {place : Option DatabasePlace}
    (hplace : ∀ found, place = some found → ∃ old next,
      s.connections[number]? = some (some (.memory old)) ∧ found = .memory next ∧ good next ∧
        ∀ store, fits store old → fits store next) :
    Upheld good fits { s with connections := s.connections.set number place } := by
  have hcases : ∀ (other : Nat) found,
      (s.connections.set number place)[other]? = some (some found) →
      s.connections[other]? = some (some found) ∧ number ≠ other ∨
        place = some found ∧ number = other := by
    intro other found hfound
    rw [List.getElem?_set] at hfound
    split at hfound
    · rename_i heq
      split at hfound
      · exact Or.inr ⟨Option.some.inj hfound, heq⟩
      · cases hfound
    · rename_i hne
      exact Or.inl ⟨hfound, hne⟩
  refine ⟨h.files, ?_, ?_, ?_⟩
  · intro other db hdb
    rcases hcases other _ hdb with ⟨hold, -⟩ | ⟨hnew, -⟩
    · exact h.memory other db hold
    · obtain ⟨old, next, -, hmemory, hgood, -⟩ := hplace _ hnew
      obtain rfl := DatabasePlace.memory.inj hmemory
      exact hgood
  · intro other location hlocation
    rcases hcases other _ hlocation with ⟨hold, -⟩ | ⟨hnew, -⟩
    · exact h.connected other location hold
    · obtain ⟨old, next, -, hmemory, -⟩ := hplace _ hnew
      cases hmemory
  · intro name handle hhandle
    obtain ⟨hlt, hfits⟩ := h.handles name handle hhandle
    refine ⟨by simpa using hlt, ?_⟩
    intro db hdb
    rcases connection_eq_some hdb with hmemory | ⟨location, hlocation, hat⟩
    · rcases hcases handle.2 _ hmemory with ⟨hold, -⟩ | ⟨hnew, rfl⟩
      · exact hfits db (connection_memory hold)
      · obtain ⟨old, next, hold, heq, -, hstill⟩ := hplace _ hnew
        obtain rfl := DatabasePlace.memory.inj heq
        exact hstill _ (hfits old (connection_memory hold))
    · rcases hcases handle.2 _ hlocation with ⟨hold, -⟩ | ⟨hnew, -⟩
      · obtain ⟨old, hfound⟩ := h.connected handle.2 location hold
        have hdbold : db = old := by
          rw [Disk.databaseAt_of_find? hfound] at hat
          exact (Except.ok.inj hat).symm
        rw [hdbold]
        exact hfits old (connection_file hold hfound)
      · obtain ⟨old, next, -, heq, -⟩ := hplace _ hnew
        cases heq

/-- Closing a connection. -/
theorem close (h : Upheld good fits s) (number : Nat) : Upheld good fits (s.close number) := by
  have hset : s.close number = { s with connections := s.connections.set number none } := by
    unfold Session.close setConnection
    split
    · rename_i hnone
      cases hnone
    · rename_i hnone
      cases hnone
    · rfl
  rw [hset]
  exact h.setOne fun found hfound => by cases hfound

/-! ## One operation -/

variable {opens : StoreParams → Prop} {writes : Store → Database → Write → Prop}

/-- Opening a store on a private database. -/
theorem performOpen_private (h : Upheld good fits s) (hkept : Maintained good fits opens writes)
    (name : String) {p : StoreParams} (hp : opens p) (hprivate : isPrivate p.database = true) :
    Upheld good fits (s.perform (.openStore name p)) := by
  obtain ⟨hgood, hfits, -⟩ := hkept.opening p .empty hp hkept.empty
  dsimp only [Session.perform, openStore]
  rw [if_pos hprivate]
  cases hopen : Store.openOn p .empty with
  | mk result db =>
      rw [hopen] at hgood hfits
      cases result with
      | error e => exact h
      | ok store =>
          have hadd : Upheld good fits (s.addConnection (.memory db)) :=
            h.addConnection _ (fun other heq => DatabasePlace.memory.inj heq ▸ hgood)
              (fun location heq => by cases heq)
          refine hadd.setHandle name (by simp [Session.addConnection]) ?_
          intro found hfound
          have hdb : (s.addConnection (.memory db)).connection s.connections.length = some db :=
            connection_memory (by simp [Session.addConnection])
          rw [hdb] at hfound
          rw [← Option.some.inj hfound]
          exact hfits store rfl

/-- The disk after an opening: its databases are good, and no store stops fitting. -/
theorem openDisk (h : Upheld good fits s) (hkept : Maintained good fits opens writes)
    {p : StoreParams} (hp : opens p) :
    Upheld good fits { s with disk := (s.disk.openStore p).2 } ∧
      ∀ store, (s.disk.openStore p).1 = .ok store → ∃ db, fits store db ∧
        (s.disk.openStore p).2.find? (Disk.databaseLocation p.database) = some (.database db) := by
  rcases Disk.openStore_cases s.disk p with ⟨⟨e, herror⟩, hsame⟩ | ⟨db, -, hfound, hresult, hnew⟩
  · constructor
    · refine h.withDisk (fun place db hdb => h.files place db ((hsame place db).mp hdb)) ?_
      intro place db hdb
      exact ⟨db, (hsame place db).mpr hdb, fun _ hfits => hfits⟩
    · intro store hstore
      rw [herror] at hstore
      cases hstore
  · have hdb : good db := by
      rcases hfound with hfound | ⟨-, rfl⟩
      · exact h.files _ db hfound
      · exact hkept.empty
    obtain ⟨hgood, hfits, hstill⟩ := hkept.opening p db hp hdb
    constructor
    · refine h.withDisk ?_ ?_
      · intro place other hother
        rw [hnew] at hother
        split at hother
        · rw [hother]
          exact hgood
        · exact h.files place other hother
      · intro place other hother
        by_cases hplace : place = Disk.databaseLocation p.database
        · refine ⟨(Store.openOn p db).2, (hnew _ _).mpr (by rw [if_pos hplace]), ?_⟩
          rcases hfound with hfound | ⟨hnone, -⟩
          · rw [hplace, hfound] at hother
            obtain rfl := DiskEntry.database.inj (Option.some.inj hother)
            exact hstill
          · exact absurd (hplace ▸ hother) (hnone other)
        · exact ⟨other, (hnew _ _).mpr (by rwa [if_neg hplace]), fun _ hfits => hfits⟩
    · intro store hstore
      refine ⟨_, hfits store (hresult.symm.trans hstore), (hnew _ _).mpr ?_⟩
      rw [if_pos rfl]

/-- Opening a store on a file. -/
theorem performOpen_file (h : Upheld good fits s) (hkept : Maintained good fits opens writes)
    (name : String) {p : StoreParams} (hp : opens p) (hprivate : isPrivate p.database = false) :
    Upheld good fits (s.perform (.openStore name p)) := by
  obtain ⟨hdisk, hstored⟩ := h.openDisk hkept hp
  dsimp only [Session.perform, openStore]
  rw [hprivate, if_neg Bool.false_ne_true]
  cases hopen : s.disk.openStore p with
  | mk result disk =>
      rw [hopen] at hdisk hstored
      cases result with
      | error e => exact hdisk
      | ok store =>
          obtain ⟨db, hfits, hat⟩ := hstored store rfl
          have hadd := hdisk.addConnection (.file (Disk.databaseLocation p.database))
            (fun other heq => by cases heq)
            (fun location heq => ⟨_, DatabasePlace.file.inj heq ▸ hat⟩)
          refine hadd.setHandle name (by simp [Session.addConnection]) ?_
          intro found hfound
          rw [connection_file (by simp [Session.addConnection]) hat] at hfound
          rw [← Option.some.inj hfound]
          exact hfits

/-- Putting a database in the place of one in a file. -/
theorem putFile (h : Upheld good fits s) {place : Location} {db next : Database}
    (hdb : s.disk.find? place = some (.database db)) (hnext : good next)
    (hstill : ∀ store, fits store db → fits store next) :
    Upheld good fits { s with disk := s.disk.put place (.database next) } := by
  have hroot := Disk.ne_nil_of_database hdb
  refine h.withDisk ?_ ?_
  · intro other found hfound
    rw [Disk.find?_put s.disk hroot] at hfound
    split at hfound
    · rw [← DiskEntry.database.inj (Option.some.inj hfound)]
      exact hnext
    · exact h.files other found hfound
  · intro other found hfound
    by_cases heq : other = place
    · subst heq
      rw [hdb] at hfound
      obtain rfl := DiskEntry.database.inj (Option.some.inj hfound)
      exact ⟨next, by rw [Disk.find?_put s.disk hroot, if_pos rfl], hstill⟩
    · refine ⟨found, ?_, fun _ hfits => hfits⟩
      rw [Disk.find?_put s.disk hroot, if_neg heq]
      exact hfound

/-- Storing a database behind an open connection. -/
theorem store (h : Upheld good fits s) {number : Nat} {db next : Database}
    (hdb : s.connection number = some db) (hnext : good next)
    (hstill : ∀ store, fits store db → fits store next) :
    Upheld good fits (s.setConnection number (some next)) := by
  rcases connection_eq_some hdb with hmemory | ⟨place, hplace, -⟩
  · rw [setConnection_memory hmemory]
    refine h.setOne ?_
    intro found hfound
    exact ⟨db, next, hmemory, (Option.some.inj hfound).symm, hnext, hstill⟩
  · rw [setConnection_file hplace]
    exact h.putFile (h.find?_of_connection hplace hdb) hnext hstill

/-- What was stored behind a connection is found there. -/
theorem connection_store (h : Upheld good fits s) {number : Nat} {db : Database}
    (hdb : s.connection number = some db) (next : Database) :
    (s.setConnection number (some next)).connection number = some next := by
  rcases connection_eq_some hdb with hmemory | ⟨place, hplace, -⟩
  · obtain ⟨hlt, -⟩ := List.getElem?_eq_some_iff.mp hmemory
    rw [setConnection_memory hmemory]
    exact connection_memory (by simp [hlt])
  · have hroot := Disk.ne_nil_of_database (h.find?_of_connection hplace hdb)
    rw [setConnection_file hplace]
    exact connection_file hplace (by rw [Disk.find?_put s.disk hroot, if_pos rfl])

/-- Writing through a handle. -/
theorem performWrite (h : Upheld good fits s) (hkept : Maintained good fits opens writes)
    {name : String} {w : Write} (hw : s.Permits opens writes (.write name w)) :
    Upheld good fits (s.perform (.write name w)) := by
  dsimp only [Session.perform]
  cases hhandle : s.handle? name with
  | none => exact h
  | some handle =>
      obtain ⟨-, hfits⟩ := h.handles name handle hhandle
      show Upheld good fits (s.writeThrough handle w)
      cases hdone : handle.1.write w (s.connection handle.2) with
      | error e =>
          rw [writeThrough_error hdone]
          exact h
      | ok c =>
          rw [writeThrough_ok hdone]
          cases hconnection : s.connection handle.2 with
          | none =>
              rw [hconnection] at hdone
              obtain ⟨e, herror⟩ := handle.1.write_closed w
              rw [herror] at hdone
              cases hdone
          | some db =>
              have hgood : good db := h.good_of_has hkept.empty (Or.inr ⟨_, hconnection⟩)
              rw [hconnection] at hdone
              obtain ⟨next, rfl, hnext, hstill⟩ := hkept.writing handle.1 db w c hgood
                (hfits db hconnection) (hw handle hhandle db hconnection) hdone
              exact h.store hconnection hnext hstill

/-- **One operation** keeps what holds. -/
theorem perform (h : Upheld good fits s) (hkept : Maintained good fits opens writes)
    {op : Operation} (hop : s.Permits opens writes op) : Upheld good fits (s.perform op) := by
  cases op with
  | openStore name p =>
      cases hprivate : isPrivate p.database with
      | true => exact h.performOpen_private hkept name hop hprivate
      | false => exact h.performOpen_file hkept name hop hprivate
  | write name w => exact h.performWrite hkept hop
  | clone name other =>
      dsimp only [Session.perform]
      cases hhandle : s.handle? name with
      | none => exact h
      | some handle =>
          obtain ⟨hlt, hfits⟩ := h.handles name handle hhandle
          exact h.setHandle other hlt hfits
  | close name =>
      dsimp only [Session.perform]
      cases s.handle? name with
      | none => exact h
      | some handle => exact h.close handle.2
  | query _ _ | get _ _ | count _ | stats _ => exact h

end Upheld

/-- **A whole run** keeps what holds at its start. -/
theorem Run.upheld {good : Database → Prop} {fits : Store → Database → Prop}
    {opens : StoreParams → Prop} {writes : Store → Database → Write → Prop} {start s : Session}
    (run : Run opens writes start s) (hkept : Maintained good fits opens writes)
    (hstart : Upheld good fits start) : Upheld good fits s := by
  induction run with
  | refl => exact hstart
  | step _ permits ih => exact ih.perform hkept permits

/-- A run from a fresh session. -/
theorem Run.upheld_of_fresh {good : Database → Prop} {fits : Store → Database → Prop}
    {opens : StoreParams → Prop} {writes : Store → Database → Write → Prop} {start s : Session}
    (run : Run opens writes start s) (hkept : Maintained good fits opens writes)
    (hstart : start.Fresh) : Upheld good fits s :=
  run.upheld hkept (.of_fresh hstart hkept.empty)

end Session

end HybridRetrieval
