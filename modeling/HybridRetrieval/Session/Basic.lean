import HybridRetrieval.Database.Inspection
import HybridRetrieval.Disk.Basic
import HybridRetrieval.Store.Event
/-!
# Sessions

A session has a disk and named handles on stores.  Handles on one file see each other's writes;
cloned handles share a connection, which is closed for all of them at once.  A private database
lives as long as its connection.
-/

namespace HybridRetrieval

/-- Where the data of a connection is. -/
inductive DatabasePlace where
  | memory (db : Database)
  | file (place : Location)
deriving Repr

/-- A disk, connections that are open or closed, and named handles on them. -/
structure Session where
  disk : Disk
  connections : List (Option DatabasePlace) := []
  handles : List (String × Store × Nat) := []

namespace Session

/-- The database behind a connection. -/
def connection (s : Session) (number : Nat) : Connection :=
  match s.connections[number]? with
  | some (some (.memory db)) => some db
  | some (some (.file place)) => (s.disk.databaseAt place).toOption
  | _ => none

/-- Stores the database of a connection, or closes it. -/
def setConnection (s : Session) (number : Nat) (c : Connection) : Session :=
  match s.connections[number]?, c with
  | some (some (.memory _)), some db =>
    { s with connections := s.connections.set number (some (.memory db)) }
  | some (some (.file place)), some db => { s with disk := s.disk.put place (.database db) }
  | _, _ => { s with connections := s.connections.set number none }

/-- Adds a connection; its number is the number of connections before. -/
def addConnection (s : Session) (place : DatabasePlace) : Session :=
  { s with connections := s.connections ++ [some place] }

/-- The handle with a name: a store and the number of its connection. -/
def handle? (s : Session) (name : String) : Option (Store × Nat) := s.handles.lookup name

/-- Names a handle; an older one with the name is forgotten. -/
def setHandle (s : Session) (name : String) (handle : Store × Nat) : Session :=
  { s with handles := (name, handle) :: s.handles }

/-- Whether a database is private to its connection.  Names in the form of a URI are not modelled:
they count as ordinary files here, while the database would read `file::memory:` as a private
one. -/
def isPrivate (database : String) : Bool := database = inMemory || database = ""

/-- Opens a store on a connection of its own, which comes with its number. -/
def openStore (s : Session) (p : StoreParams) : Except Error (Store × Nat) × Session :=
  let number := s.connections.length
  if isPrivate p.database then
    match Store.openOn p .empty with
    | (.ok store, db) => (.ok (store, number), s.addConnection (.memory db))
    | (.error e, _) => (.error e, s)
  else
    match s.disk.openStore p with
    | (.ok store, disk) =>
      (.ok (store, number),
        { s with disk := disk }.addConnection (.file (Disk.databaseLocation p.database)))
    | (.error e, disk) => (.error e, { s with disk := disk })

/-- The events of opening a store. -/
def openEvents (s : Session) (p : StoreParams) : List Event :=
  if isPrivate p.database then Store.openEvents p .empty
  else
    match s.disk.ensureParent p.database with
    | .error _ => []
    | .ok disk =>
      match disk.databaseAt (Disk.databaseLocation p.database) with
      | .error _ => []
      | .ok db => Store.openEvents p db

/-- Applies a writing operation to the connection of a handle. -/
def write {α : Type} (s : Session) (number : Nat)
    (f : Connection → Except Error (α × Connection)) : Except Error α × Session :=
  match f (s.connection number) with
  | .ok (x, c) => (.ok x, s.setConnection number c)
  | .error e => (.error e, s)

/-- Closes a connection for all handles that share it. -/
def close (s : Session) (number : Nat) : Session := s.setConnection number none

/-- Looks into a database file. -/
def dump (s : Session) (database table : String) :
    Except Error (List DataRow × Option (List LexemeRow)) := do
  (← s.disk.databaseAt (Disk.databaseLocation database)).dump table

/-- Changes a cell in a database file. -/
def edit (s : Session) (database table id : String) (column : DataColumn) (cell : Cell) :
    Except Error (Nat × Session) := do
  let place := Disk.databaseLocation database
  let (changed, db) ← (← s.disk.databaseAt place).edit table id column cell
  return (changed, { s with disk := s.disk.put place (.database db) })

end Session

end HybridRetrieval
