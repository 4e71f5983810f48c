import HybridRetrieval.CommandLine.Outcome
import HybridRetrieval.Database.Image
/-!
# The program

The files that a command may use are read into a disk, the command is run on it, and what it has
changed is written back.  A database is kept as its image.  Paths are below the working directory.
-/

namespace HybridRetrieval.CommandLine

/-- What is at a path of the file system: an image where one can be read, else a text. -/
def readDiskEntry (path : String) : IO (Option DiskEntry) := do
  let file := (← IO.currentDir) / path
  if ← file.isDir then return some .directory
  else if ← file.pathExists then
    let content ← IO.FS.readFile file
    match Database.ofImage? content with
    | some db => return some (.database db)
    | none => return some (.text content)
  else return none

/-- Takes a path and the directories above it into a disk. -/
def readPath (d : Disk) (path : String) : IO Disk := do
  let place := Disk.databaseLocation path
  let mut d := d
  for size in List.range place.length do
    let part := place.take (size + 1)
    if (d.find? part).isNone then
      match ← readDiskEntry ("/".intercalate part) with
      | some entry => d := d.put part entry
      | none => pure ()
  return d

/-- Writes an entry to the file system. -/
def writeDiskEntry (place : Location) (entry : DiskEntry) : IO Unit := do
  let file := (← IO.currentDir) / "/".intercalate place
  match entry with
  | .directory => IO.FS.createDirAll file
  | .text content => IO.FS.writeFile file content
  | .database db => IO.FS.writeFile file db.image

/-- Writes the entries in which one disk differs from an earlier one. -/
def writeChanges (earlier later : Disk) : IO Unit :=
  for (place, entry) in later.entries do
    if earlier.find? place ≠ some entry then writeDiskEntry place entry

/-- The disk with the files that a command may use. -/
def readDisk (i : Invocation) : IO Disk := do
  let mut d ← readPath .empty i.general.path
  match i.command with
  | .add input _ => d ← readPath d input
  | _ => pure ()
  match i.general.storeParams d with
  | .ok p => if Session.isPrivate p.database then return d else readPath d p.database
  | .error _ => return d

/-- A span of time in whole seconds. -/
def elapsedText (seconds : Nat) : String :=
  toString seconds ++ if seconds = 1 then " second" else " seconds"

/-- Writes what a command has to say; details only if they are wanted. -/
def report (verbose : Bool) (o : Outcome) (seconds : Nat) : IO Unit := do
  for event in o.events do
    if verbose || event.level != .debug then
      IO.eprintln (event.level.name ++ " " ++ event.message)
  IO.print (o.output (elapsedText seconds))
  for warning in o.warnings do IO.eprintln warning
  match o.error with
  | some message => IO.eprintln ("Error: " ++ message)
  | none => pure ()

/-- Does what the words of a command line ask for, on the files of the working directory. -/
def runOnFiles (words : List String) : IO UInt32 := do
  let started ← IO.monoMsNow
  let (verbose, before) ← match Request.ofWords? words with
    | some (.run i) => pure (i.general.verbose, ← readDisk i)
    | _ => pure (false, .empty)
  let (outcome, after) := run before words
  writeChanges before after
  report verbose outcome (((← IO.monoMsNow) - started) / 1000)
  return outcome.exitCode.toUInt32

end HybridRetrieval.CommandLine

/-- The program. -/
def main (words : List String) : IO UInt32 := HybridRetrieval.CommandLine.runOnFiles words
