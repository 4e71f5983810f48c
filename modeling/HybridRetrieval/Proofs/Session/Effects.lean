import HybridRetrieval.Proofs.Session.Stocks
/-!
# What an operation does to one database

A database is private to a connection or lies in a file (`Site`).  Handles lead to it through their
connections, and there are only a few things that an operation can do to it: nothing, make it, open
another store on it, write to it, or, if it is private, drop it (`Session.Effect`).  Which of these
an operation does is decided by the operation and the session before (`Upheld.effect_perform`), and
the writes that reach a database and succeed can be read off the operation (`written?`).

Seen from one data table of the database that is: its rows are changed by a write through a store on
the table (`change?`), they go with the database, and nothing else happens to them
(`Upheld.rowsAt_perform`).
-/

namespace HybridRetrieval

/-- Where a database is: behind one connection, or in a file. -/
inductive Site where
  | memory (number : Nat)
  | file (place : Location)
deriving DecidableEq, Repr

namespace Session

/-- The site that a connection leads to, if it is open. -/
def site? (s : Session) (number : Nat) : Option Site :=
  match s.connections[number]? with
  | some (some (.memory _)) => some (.memory number)
  | some (some (.file place)) => some (.file place)
  | _ => none

/-- The database at a site, if there is one. -/
def databaseAt? (s : Session) : Site → Option Database
  | .memory number =>
    match s.connections[number]? with
    | some (some (.memory db)) => some db
    | _ => none
  | .file place =>
    match s.disk.find? place with
    | some (.database db) => some db
    | _ => none

/-- There is a database at the site, or there was a private one. -/
def Used (s : Session) : Site → Prop
  | .memory number => number < s.connections.length
  | .file place => (s.databaseAt? (.file place)).isSome = true

/-- The store and the write by which an operation changes the database at a site. -/
def written? (s : Session) (site : Site) : Operation → Option (Store × Write)
  | .write name w =>
    match s.handle? name with
    | some handle =>
      if s.site? handle.2 = some site ∧ (handle.1.write w (s.connection handle.2)).toBool then
        some (handle.1, w)
      else none
    | none => none
  | _ => none

/-- The store and the write by which an operation changes a data table at a site. -/
def change? (s : Session) (site : Site) (table : String) (op : Operation) :
    Option (Store × Write) :=
  (s.written? site op).filter fun change => change.1.names.data = table

/-- The rows of a data table at a site; there are none without the table. -/
def rowsAt (s : Session) (site : Site) (table : String) : List DataRow :=
  match s.databaseAt? site with
  | some db => db.rowsOf table
  | none => []

theorem rowsAt_eq {s : Session} {site : Site} {db : Database} (h : s.databaseAt? site = some db)
    (table : String) : s.rowsAt site table = db.rowsOf table := by
  rw [rowsAt, h]

/-- What an operation does to the database at a site, by what is there afterwards. -/
inductive Effect (s : Session) (site : Site) (op : Operation) : Option Database → Prop
  /-- Nothing. -/
  | kept (quiet : s.written? site op = none) : Effect s site op (s.databaseAt? site)
  /-- It is made for the store that is opened on it. -/
  | created {p : StoreParams} (quiet : s.written? site op = none) (unused : ¬ s.Used site) :
      Effect s site op (some (Store.openOn p .empty).2)
  /-- Another store is opened on it. -/
  | opened {p : StoreParams} {db : Database} (quiet : s.written? site op = none)
      (before : s.databaseAt? site = some db) : Effect s site op (some (Store.openOn p db).2)
  /-- A write through a handle succeeds. -/
  | written {name : String} {handle : Store × Nat} {w : Write} {db made : Database}
      (write : s.written? site op = some (handle.1, w)) (found : s.handle? name = some handle)
      (connection : s.connection handle.2 = some db) (before : s.databaseAt? site = some db)
      (writes : handle.1.write w (some db) = .ok (some made)) : Effect s site op (some made)
  /-- It is private, and its connection is closed. -/
  | closed {number : Nat} (quiet : s.written? site op = none) (memory : site = .memory number) :
      Effect s site op none

/-! ## Sites and connections -/

theorem databaseAt?_memory {s : Session} {number : Nat} {db : Database} :
    s.databaseAt? (.memory number) = some db ↔
      s.connections[number]? = some (some (.memory db)) := by
  simp only [databaseAt?]
  split
  · rename_i found hfound
    rw [hfound]
    simp
  · rename_i hnone
    exact iff_of_false (fun h => by cases h) (hnone db)

theorem databaseAt?_file {s : Session} {place : Location} {db : Database} :
    s.databaseAt? (.file place) = some db ↔ s.disk.find? place = some (.database db) := by
  simp only [databaseAt?]
  split
  · rename_i found hfound
    rw [hfound]
    simp
  · rename_i hnone
    exact iff_of_false (fun h => by cases h) (hnone db)

/-- What a session has at its sites depends on its connections and on the databases of its disk. -/
theorem databaseAt?_congr {s t : Session} (hconnections : s.connections = t.connections)
    (hdisk : ∀ place db, s.disk.find? place = some (.database db) ↔
      t.disk.find? place = some (.database db)) (site : Site) :
    s.databaseAt? site = t.databaseAt? site := by
  cases site with
  | memory number =>
      ext db
      rw [databaseAt?_memory, databaseAt?_memory, hconnections]
  | file place =>
      ext db
      rw [databaseAt?_file, databaseAt?_file, hdisk]

/-- There is no database at a site that has not been used. -/
theorem databaseAt?_of_unused {s : Session} {site : Site} (h : ¬ s.Used site) :
    s.databaseAt? site = none := by
  cases site with
  | memory number => simp [databaseAt?, List.getElem?_eq_none (Nat.le_of_not_lt h)]
  | file place => simpa [Used] using h

/-- A new connection to a private database puts it at a site of its own. -/
theorem databaseAt?_addMemory (s : Session) (db : Database) (site : Site) :
    (s.addConnection (.memory db)).databaseAt? site =
      if site = .memory s.connections.length then some db else s.databaseAt? site := by
  cases site with
  | file place => rfl
  | memory number =>
      rcases Nat.lt_trichotomy number s.connections.length with hlt | rfl | hgt
      · rw [if_neg fun heq => Nat.ne_of_lt hlt (Site.memory.inj heq)]
        simp [databaseAt?, addConnection, List.getElem?_append_left hlt]
      · rw [if_pos rfl]
        simp [databaseAt?, addConnection]
      · rw [if_neg fun heq => Nat.ne_of_gt hgt (Site.memory.inj heq)]
        have hold : s.connections[number]? = none := by simp; omega
        have hnew : (s.connections ++ [some (.memory db)])[number]? = none := by simp; omega
        simp [databaseAt?, addConnection, hold, hnew]

/-- A new connection to a file leaves everything where it is. -/
theorem databaseAt?_addFile (s : Session) (place : Location) (site : Site) :
    (s.addConnection (.file place)).databaseAt? site = s.databaseAt? site := by
  cases site with
  | file place => rfl
  | memory number =>
      ext db
      rw [databaseAt?_memory, databaseAt?_memory, addConnection, List.getElem?_append]
      split
      · rfl
      · rename_i hge
        have hold : s.connections[number]? = none := by simp; omega
        rw [hold]
        rcases Nat.eq_zero_or_pos (number - s.connections.length) with hzero | hpos
        · simp [hzero]
        · simp [Nat.ne_of_gt hpos]

/-- An open connection leads to a site. -/
theorem exists_site {s : Session} {number : Nat} {db : Database}
    (h : s.connection number = some db) : ∃ site, s.site? number = some site := by
  rcases connection_eq_some h with hmemory | ⟨place, hplace, -⟩
  · exact ⟨.memory number, by rw [site?, hmemory]⟩
  · exact ⟨.file place, by rw [site?, hplace]⟩

/-- What has been written through a handle. -/
theorem exists_of_written {s : Session} {site : Site} {op : Operation} {store : Store} {w : Write}
    (h : s.written? site op = some (store, w)) :
    ∃ name handle c, op = .write name w ∧ s.handle? name = some handle ∧ handle.1 = store ∧
      s.site? handle.2 = some site ∧ store.write w (s.connection handle.2) = .ok c := by
  cases op with
  | write name w' =>
      rw [written?] at h
      split at h
      · rename_i handle hhandle
        split at h
        · rename_i hreach
          obtain ⟨rfl, rfl⟩ := Prod.mk.inj (Option.some.inj h)
          cases hdone : handle.1.write w' (s.connection handle.2) with
          | error e =>
              rw [hdone] at hreach
              exact absurd hreach.2 (by simp [Except.toBool])
          | ok c => exact ⟨name, handle, c, rfl, hhandle, rfl, hreach.1, hdone⟩
        · cases h
      · cases h
  | openStore | clone | query | get | count | stats | close => cases h

namespace Upheld

variable {good : Database → Prop} {fits : Store → Database → Prop} {s : Session} {site : Site}

/-- An open connection leads to the database at its site. -/
theorem connection_eq (h : s.Upheld good fits) {number : Nat} (hsite : s.site? number = some site) :
    s.connection number = s.databaseAt? site ∧ ∃ db, s.databaseAt? site = some db := by
  unfold site? at hsite
  split at hsite
  · rename_i db hdb
    obtain rfl := Option.some.inj hsite
    exact ⟨(connection_memory hdb).trans (databaseAt?_memory.mpr hdb).symm, db,
      databaseAt?_memory.mpr hdb⟩
  · rename_i place hplace
    obtain rfl := Option.some.inj hsite
    obtain ⟨db, hdb⟩ := h.connected number place hplace
    exact ⟨(connection_file hplace hdb).trans (databaseAt?_file.mpr hdb).symm, db,
      databaseAt?_file.mpr hdb⟩
  · cases hsite

/-! ## One operation -/

/-- Opening a store on a private database. -/
theorem effect_openPrivate (name : String) {p : StoreParams}
    (hprivate : isPrivate p.database = true) (site : Site) :
    s.Effect site (.openStore name p) ((s.perform (.openStore name p)).databaseAt? site) := by
  dsimp only [Session.perform, openStore]
  rw [if_pos hprivate]
  cases hopen : Store.openOn p .empty with
  | mk result db =>
      cases result with
      | error e => exact .kept rfl
      | ok store =>
          have hnew : ((s.addConnection (.memory db)).setHandle name
              (store, s.connections.length)).databaseAt? site =
                if site = .memory s.connections.length then some db else s.databaseAt? site :=
            databaseAt?_addMemory s db site
          show s.Effect site _ (((s.addConnection (.memory db)).setHandle name
              (store, s.connections.length)).databaseAt? site)
          rw [hnew]
          split
          · rename_i hsite
            have hmade : db = (Store.openOn p .empty).2 := by rw [hopen]
            rw [hmade]
            refine .created rfl ?_
            rw [hsite]
            exact Nat.lt_irrefl _
          · exact .kept rfl

/-- Opening a store on a file. -/
theorem effect_openFile (name : String) {p : StoreParams} (hprivate : isPrivate p.database = false)
    (site : Site) :
    s.Effect site (.openStore name p) ((s.perform (.openStore name p)).databaseAt? site) := by
  have hdisk : (s.perform (.openStore name p)).databaseAt? site =
      ({ s with disk := (s.disk.openStore p).2 } : Session).databaseAt? site := by
    dsimp only [Session.perform, openStore]
    rw [hprivate, if_neg Bool.false_ne_true]
    cases s.disk.openStore p with
    | mk result disk =>
        cases result with
        | error e => rfl
        | ok store => exact databaseAt?_addFile { s with disk := disk } _ site
  rw [hdisk]
  -- a failed opening may have made directories, but no database
  rcases Disk.openStore_cases s.disk p with ⟨-, hsame⟩ | ⟨db, -, hfound, -, hnew⟩
  · have hkept : ({ s with disk := (s.disk.openStore p).2 } : Session).databaseAt? site =
        s.databaseAt? site :=
      databaseAt?_congr (s := { s with disk := (s.disk.openStore p).2 }) (t := s) rfl hsame site
    rw [hkept]
    exact .kept rfl
  · by_cases hsite : site = .file (Disk.databaseLocation p.database)
    · subst hsite
      have hmade : ({ s with disk := (s.disk.openStore p).2 } : Session).databaseAt?
          (.file (Disk.databaseLocation p.database)) = some (Store.openOn p db).2 :=
        databaseAt?_file.mpr ((hnew _ _).mpr (if_pos rfl ▸ rfl))
      rw [hmade]
      rcases hfound with hfound | ⟨hnone, rfl⟩
      · exact .opened rfl (databaseAt?_file.mpr hfound)
      · refine .created rfl fun hused => ?_
        obtain ⟨other, hother⟩ := Option.isSome_iff_exists.mp hused
        exact hnone other (databaseAt?_file.mp hother)
    · have hkept : ({ s with disk := (s.disk.openStore p).2 } : Session).databaseAt? site =
          s.databaseAt? site := by
        cases site with
        | memory number => rfl
        | file place =>
            ext other
            have hplace : place ≠ Disk.databaseLocation p.database := fun heq => hsite (heq ▸ rfl)
            rw [databaseAt?_file, databaseAt?_file, hnew, if_neg hplace]
      rw [hkept]
      exact .kept rfl

/-- What is stored behind a connection is at its site, and nothing else changes. -/
theorem databaseAt?_setConnection (h : s.Upheld good fits) {number : Nat} {place : Site}
    (hplace : s.site? number = some place) (next : Database) (site : Site) :
    (s.setConnection number (some next)).databaseAt? site =
      if site = place then some next else s.databaseAt? site := by
  unfold site? at hplace
  split at hplace
  · rename_i db hdb
    obtain rfl := Option.some.inj hplace
    obtain ⟨hlt, -⟩ := List.getElem?_eq_some_iff.mp hdb
    rw [setConnection_memory hdb]
    cases site with
    | file place => rfl
    | memory other =>
        by_cases heq : other = number
        · subst heq
          rw [if_pos rfl, databaseAt?_memory]
          simp [hlt]
        · rw [if_neg fun hsite => heq (Site.memory.inj hsite)]
          simp [databaseAt?, List.getElem?_set_ne (Ne.symm heq)]
  · rename_i location hlocation
    obtain rfl := Option.some.inj hplace
    obtain ⟨db, hdb⟩ := h.connected number location hlocation
    rw [setConnection_file hlocation]
    cases site with
    | memory other => rfl
    | file other =>
        ext found
        rw [databaseAt?_file, Disk.find?_put s.disk (Disk.ne_nil_of_database hdb)]
        by_cases heq : other = location
        · simp [heq]
        · rw [if_neg heq, if_neg fun hsite => heq (Site.file.inj hsite), databaseAt?_file]
  · cases hplace

/-- Writing through a handle. -/
theorem effect_write (h : s.Upheld good fits) (name : String) (w : Write) (site : Site) :
    s.Effect site (.write name w) ((s.perform (.write name w)).databaseAt? site) := by
  cases hhandle : s.handle? name with
  | none =>
      have hsame : s.perform (.write name w) = s := by simp [Session.perform, hhandle]
      rw [hsame]
      exact .kept (by simp [written?, hhandle])
  | some handle =>
      rw [perform_write hhandle]
      cases hdone : handle.1.write w (s.connection handle.2) with
      | error e =>
          rw [writeThrough_error hdone]
          exact .kept (by simp [written?, hhandle, hdone, Except.toBool])
      | ok c =>
          rw [writeThrough_ok hdone]
          cases hconnection : s.connection handle.2 with
          | none =>
              rw [hconnection] at hdone
              obtain ⟨e, herror⟩ := handle.1.write_closed w
              rw [herror] at hdone
              cases hdone
          | some db =>
              obtain ⟨place, hplace⟩ := exists_site hconnection
              have hbefore := (h.connection_eq hplace).1.symm.trans hconnection
              rw [hconnection] at hdone
              obtain ⟨made, rfl⟩ := Store.exists_of_write hdone
              rw [h.databaseAt?_setConnection hplace]
              split
              · rename_i hsite
                subst hsite
                have hwritten : s.written? site (.write name w) = some (handle.1, w) := by
                  simp [written?, hhandle, hplace, hconnection, hdone, Except.toBool]
                exact .written hwritten hhandle hconnection hbefore hdone
              · rename_i hsite
                refine .kept ?_
                simp [written?, hhandle, hplace, Ne.symm hsite]

/-- Closing a connection. -/
theorem effect_close (name : String) (site : Site) :
    s.Effect site (.close name) ((s.perform (.close name)).databaseAt? site) := by
  cases hhandle : s.handle? name with
  | none =>
      have hsame : s.perform (.close name) = s := by simp [Session.perform, hhandle]
      rw [hsame]
      exact .kept rfl
  | some handle =>
      have hclosed : s.perform (.close name) =
          { s with connections := s.connections.set handle.2 none } := by
        simp only [Session.perform, hhandle, Session.close, setConnection]
        split <;> simp_all
      rw [hclosed]
      cases site with
      | file place => exact .kept rfl
      | memory number =>
          by_cases heq : number = handle.2
          · have hnone : ({ s with connections := s.connections.set handle.2 none } :
                Session).databaseAt? (.memory number) = none := by
              subst heq
              simp only [databaseAt?, List.getElem?_set]
              split <;> simp_all
            rw [hnone]
            exact .closed rfl rfl
          · have hkept : ({ s with connections := s.connections.set handle.2 none } :
                Session).databaseAt? (.memory number) = s.databaseAt? (.memory number) := by
              simp [databaseAt?, List.getElem?_set_ne (Ne.symm heq)]
            rw [hkept]
            exact .kept rfl

/-- **What an operation does to the database at a site.** -/
theorem effect_perform (h : s.Upheld good fits) (site : Site) (op : Operation) :
    s.Effect site op ((s.perform op).databaseAt? site) := by
  cases op with
  | openStore name p =>
      cases hprivate : isPrivate p.database with
      | true => exact effect_openPrivate name hprivate site
      | false => exact effect_openFile name hprivate site
  | write name w => exact h.effect_write name w site
  | close name => exact effect_close name site
  | clone name other =>
      dsimp only [Session.perform]
      cases s.handle? name with
      | none => exact .kept rfl
      | some handle => exact .kept rfl
  | query _ _ | get _ _ | count _ | stats _ => exact .kept rfl

/-! ## One data table -/

/-- No connection is forgotten, also when it is closed. -/
theorem length_connections_perform (s : Session) (op : Operation) :
    s.connections.length ≤ (s.perform op).connections.length := by
  have hset : ∀ (number : Nat) (c : Connection),
      (s.setConnection number c).connections.length = s.connections.length := by
    intro number c
    unfold setConnection
    split <;> simp
  cases op with
  | openStore name p =>
      have hadd : ∀ (disk : Disk) (place : DatabasePlace) (handle : Store × Nat),
          s.connections.length ≤
            ((({ s with disk := disk } : Session).addConnection place).setHandle
              name handle).connections.length := by
        simp [Session.addConnection, Session.setHandle]
      dsimp only [Session.perform, openStore]
      cases hprivate : isPrivate p.database with
      | true =>
          rw [if_pos rfl]
          cases Store.openOn p .empty with
          | mk result db =>
              cases result with
              | error e => exact Nat.le_refl _
              | ok store => exact hadd s.disk _ _
      | false =>
          rw [if_neg Bool.false_ne_true]
          cases s.disk.openStore p with
          | mk result disk =>
              cases result with
              | error e => exact Nat.le_refl _
              | ok store => exact hadd disk _ _
  | write name w =>
      dsimp only [Session.perform]
      cases s.handle? name with
      | none => exact Nat.le_refl _
      | some handle =>
          show _ ≤ (s.writeThrough handle w).connections.length
          cases hdone : handle.1.write w (s.connection handle.2) with
          | error e => rw [writeThrough_error hdone]
          | ok c => rw [writeThrough_ok hdone, hset]
  | close name =>
      dsimp only [Session.perform]
      cases s.handle? name with
      | none => exact Nat.le_refl _
      | some handle => exact (hset _ _).ge
  | clone name other =>
      dsimp only [Session.perform]
      cases s.handle? name with
      | none => exact Nat.le_refl _
      | some handle => exact Nat.le_refl _
  | query | get | count | stats => exact Nat.le_refl _

/-- A site that has been used stays so: connections keep their numbers, files their databases. -/
theorem used_perform (h : s.Upheld good fits) (hused : s.Used site) (op : Operation) :
    (s.perform op).Used site := by
  cases site with
  | memory number => exact Nat.lt_of_lt_of_le hused (length_connections_perform s op)
  | file place =>
      have heffect := h.effect_perform (.file place) op
      rw [Used]
      generalize (s.perform op).databaseAt? (.file place) = after at heffect
      cases heffect with
      | kept => exact hused
      | created | opened | written => rfl
      | closed _ memory => cases memory

/-- A database at a used site was there before. -/
theorem exists_of_perform (h : s.Upheld good fits) (hused : s.Used site) {op : Operation}
    {made : Database} (hmade : (s.perform op).databaseAt? site = some made) :
    ∃ db, s.databaseAt? site = some db := by
  have heffect := h.effect_perform site op
  generalize (s.perform op).databaseAt? site = after at heffect hmade
  cases heffect with
  | kept => exact ⟨made, hmade⟩
  | closed => cases hmade
  | created _ unused => exact absurd hused unused
  | opened _ before => exact ⟨_, before⟩
  | written _ _ _ before => exact ⟨_, before⟩

/-- Behind an open handle is the database at its site, with the tables of the store. -/
theorem exists_tables (h : s.Upheld WellShaped Equipped) {name : String} {handle : Store × Nat}
    (hhandle : s.handle? name = some handle) (hsite : s.site? handle.2 = some site) :
    ∃ db rows, s.connection handle.2 = some db ∧ s.databaseAt? site = some db ∧
      Equipped handle.1 db ∧ db.table? handle.1.names.data = some (.data rows) ∧
      s.rowsAt site handle.1.names.data = rows := by
  obtain ⟨hconnection, db, hdb⟩ := h.connection_eq hsite
  rw [hdb] at hconnection
  have hequipped := (h.handles name handle hhandle).2 db hconnection
  obtain ⟨rows, hrows⟩ := hequipped.data
  exact ⟨db, rows, hconnection, hdb, hequipped, hrows, by
    rw [rowsAt_eq hdb, Database.rowsOf_eq hrows]⟩

/-- **What an operation does to a data table**: a write through a store on the table changes it, it
may go with the database, and otherwise it stays. -/
theorem rowsAt_perform (h : s.Upheld WellShaped Equipped) (site : Site) (table : String)
    (op : Operation) :
    (∃ store w, s.change? site table op = some (store, w) ∧ w.Fits store.params.embedDim ∧
        (s.perform op).rowsAt site table = w.rowsAfter (s.rowsAt site table)) ∨
      s.change? site table op = none ∧
        ((s.perform op).rowsAt site table = s.rowsAt site table ∨
          (s.perform op).databaseAt? site = none) := by
  have hquiet : s.written? site op = none → s.change? site table op = none := by
    intro hquiet
    rw [change?, hquiet]
    rfl
  have heffect := h.effect_perform site op
  generalize hafter : (s.perform op).databaseAt? site = after at heffect
  cases heffect with
  | kept quiet => exact Or.inr ⟨hquiet quiet, Or.inl (by rw [rowsAt, rowsAt, hafter])⟩
  | @created p quiet unused =>
      refine Or.inr ⟨hquiet quiet, Or.inl ?_⟩
      rw [rowsAt_eq hafter, rowsOf_openOn, rowsAt, databaseAt?_of_unused unused]
      rfl
  | opened quiet before =>
      refine Or.inr ⟨hquiet quiet, Or.inl ?_⟩
      rw [rowsAt_eq hafter, rowsOf_openOn, rowsAt_eq before]
  | @written name handle w db made write found connection before writes =>
      have hequipped := (h.handles name handle found).2 db connection
      obtain ⟨rows, hrows⟩ := hequipped.data
      obtain ⟨hfits, _, heq, hleaves⟩ := Store.leaves_of_write hequipped hrows writes
      obtain rfl := Option.some.inj heq
      rw [rowsAt_eq hafter, rowsAt_eq before, hleaves.rowsOf hequipped hrows, change?, write]
      by_cases htable : handle.1.names.data = table
      · exact Or.inl ⟨handle.1, w, by simp [htable], hfits, if_pos htable⟩
      · exact Or.inr ⟨by simp [htable], Or.inl (if_neg htable)⟩
  | closed quiet => exact Or.inr ⟨hquiet quiet, Or.inr rfl⟩

end Upheld

end Session

end HybridRetrieval
