import HybridRetrieval.Store.Basic
/-!
# The disk

A disk is a tree of directories, text files and databases, kept as a list of paths.  Paths are
walked from the working directory, which is the root of the tree: every part but the last must be a
directory.  What lies outside the working directory is not modelled: absolute paths fail, and double
dots at the root stay there.
-/

namespace HybridRetrieval

/-- What a path leads to. -/
inductive DiskEntry where
  | directory
  | text (content : String)
  | database (db : Database)
deriving DecidableEq, Repr

/-- Why a path cannot be used. -/
inductive DiskError where
  | notFound
  | notDirectory
  | isDirectory
  | notText
  | nameTooLong
  | badName
deriving DecidableEq, Repr

/-- What the system says about an error. -/
def DiskError.message : DiskError → String
  | notFound => "No such file or directory (os error 2)"
  | notDirectory => "Not a directory (os error 20)"
  | isDirectory => "Is a directory (os error 21)"
  | notText => "stream did not contain valid UTF-8"
  | nameTooLong => "File name too long (os error 36)"
  | badName => "file name contained an unexpected NUL byte"

/-- The parts of a path within the tree, outermost first. -/
abbrev Location := List String

/-- A tree as the list of its entries; the root is always there. -/
structure Disk where
  entries : List (Location × DiskEntry)
deriving Repr

namespace Disk

/-- The disk with an empty working directory. -/
def empty : Disk := ⟨[]⟩

instance : Inhabited Disk := ⟨empty⟩

def find? (d : Disk) (place : Location) : Option DiskEntry :=
  if place = [] then some .directory else d.entries.lookup place

/-- Replaces an entry or adds it. -/
def put (d : Disk) (place : Location) (e : DiskEntry) : Disk :=
  ⟨if (d.entries.lookup place).isSome then
      d.entries.map fun entry => if entry.1 = place then (place, e) else entry
    else d.entries ++ [(place, e)]⟩

/-- The parts of a path between slashes. -/
def pathParts (path : String) : List String := (path.toList.splitOn '/').map String.ofList

/-- Whether a path starts at the root of the system. -/
def isAbsolute (path : String) : Bool := path.toList.head? == some '/'

/-- The longest name of an entry, in bytes. -/
def maxNameSize : Nat := 255

/-- What is wrong with the name of an entry. -/
def nameFault? (name : String) : Option DiskError :=
  if name.toList.contains '\x00' then some .badName
  else if maxNameSize < name.utf8ByteSize then some .nameTooLong
  else none

/-- Walks parts from a directory: empty parts and single dots stay, double dots go up, any other
part but the last must be a directory. -/
def walk (d : Disk) (here : Location) : List String → Except DiskError Location
  | [] => .ok here
  | part :: rest =>
    match d.find? here with
    | some .directory =>
      if part = "" ∨ part = "." then walk d here rest
      else if part = ".." then walk d here.dropLast rest
      else match nameFault? part with
        | some fault => .error fault
        | none => walk d (here ++ [part]) rest
    | some _ => .error .notDirectory
    | none => .error .notFound

/-- The place a path leads to, whether or not something is there.  Only the tree below the working
directory is modelled: an absolute path, which the system would follow from its root, is not found,
and double dots at the working directory, which would lead above it, stay there. -/
def resolve (d : Disk) (path : String) : Except DiskError Location :=
  if path.toList.contains '\x00' then .error .badName
  else if path = "" ∨ isAbsolute path then .error .notFound
  else d.walk [] (pathParts path)

/-- What a path leads to. -/
def lookup (d : Disk) (path : String) : Except DiskError (Location × DiskEntry) := do
  let place ← d.resolve path
  match d.find? place with
  | some e => return (place, e)
  | none => .error .notFound

def exists? (d : Disk) (path : String) : Bool := (d.lookup path).toBool

/-- The content of a text file. -/
def readText (d : Disk) (path : String) : Except DiskError String := do
  match (← d.lookup path).2 with
  | .text s => return s
  | .directory => .error .isDirectory
  | .database _ => .error .notText

/-- The path without slashes at its end. -/
def withoutFinalSlashes (path : String) : String :=
  String.ofList (path.toList.reverse.dropWhile (· == '/')).reverse

/-- Writes a text file in a directory that exists; a slash at the end asks for a directory. -/
def writeText (d : Disk) (path content : String) : Except DiskError Disk := do
  let place ← d.resolve (withoutFinalSlashes path)
  if withoutFinalSlashes path ≠ path then .error .isDirectory
  match d.find? place, d.find? place.dropLast with
  | some .directory, _ => .error .isDirectory
  | _, some .directory => return d.put place (.text content)
  | _, some _ => .error .notDirectory
  | _, none => .error .notFound

/-- Makes the directories along parts that are missing. -/
def makeDirectories (d : Disk) (here : Location) : List String → Except DiskError Disk
  | [] => .ok d
  | part :: rest =>
    if part = "" ∨ part = "." then makeDirectories d here rest
    else if part = ".." then makeDirectories d here.dropLast rest
    else
      let next := here ++ [part]
      match nameFault? part, d.find? next with
      | some fault, _ => .error fault
      | none, some .directory => makeDirectories d next rest
      | none, some _ => .error .notDirectory
      | none, none => makeDirectories (d.put next .directory) next rest

/-- The parts of the directory of a path. -/
def parentParts (path : String) : List String :=
  ((pathParts path).filter fun part => part ≠ "" ∧ part ≠ ".").dropLast

/-- A disk with the given text files and their directories. -/
def ofFiles (files : List (String × String)) : Disk :=
  files.foldl (fun d file =>
    match d.makeDirectories [] (parentParts file.1) with
    | .ok d =>
      match d.writeText file.1 file.2 with
      | .ok d => d
      | .error _ => d
    | .error _ => d) empty

/-- Makes the directory of a path unless something is there.  An absolute path lies outside the
modelled tree and fails here, where the system would make or find its directory. -/
def ensureParent (d : Disk) (path : String) : Except Error Disk :=
  if isAbsolute path then .error .io
  else
    let parts := parentParts path
    match d.walk [] parts with
    | .ok place => if (d.find? place).isSome then .ok d else make d parts
    | .error _ => make d parts
where
  /-- Makes directories; any failure is one of the file system. -/
  make (d : Disk) (parts : List String) : Except Error Disk :=
    (d.makeDirectories [] parts).mapError fun _ => .io

/-- The place of a database path, by its parts alone. -/
def databaseLocation (path : String) : Location :=
  (pathParts path).foldl (fun here part =>
    if part = "" ∨ part = "." then here
    else if part = ".." then here.dropLast
    else here ++ [part]) []

/-- The database at a place: none there yet or an empty file is an empty one. -/
def databaseAt (d : Disk) (place : Location) : Except Error Database :=
  match d.find? place, d.find? place.dropLast with
  | some (.database db), _ => .ok db
  | some (.text s), _ => if s = "" then .ok .empty else .error .storage
  | some .directory, _ => .error .storage
  | none, some .directory =>
    if place.any fun name => (nameFault? name).isSome then .error .storage else .ok .empty
  | none, _ => .error .storage

/-- Opens a store on a database file, whose directory is made if it is missing.  What was changed
before a failure stays. -/
def openStore (d : Disk) (p : StoreParams) : Except Error Store × Disk :=
  match TableNames.ofName p.tableName with
  | .error e => (.error e, d)
  | .ok _ =>
    match d.ensureParent p.database with
    | .error e => (.error e, d)
    | .ok d =>
      let place := databaseLocation p.database
      match d.databaseAt place with
      | .error e => (.error e, d)
      | .ok db =>
        let (store, db) := Store.openOn p db
        (store, d.put place (.database db))

end Disk

end HybridRetrieval
