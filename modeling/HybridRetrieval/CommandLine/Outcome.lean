import HybridRetrieval.CommandLine.Request
import HybridRetrieval.Session.Basic
import HybridRetrieval.Settings.Stored
import HybridRetrieval.Store.Import
/-!
# Running a command

`run` takes a disk and the words of a command line to what is written and the disk afterwards.  A
command first resolves its parameters from the settings file; all but one then open a store, and
close it at the end.
-/

namespace HybridRetrieval.CommandLine

/-- A line of output; only the clock knows how long an import took. -/
inductive OutputLine where
  | text (s : String)
  | complete
deriving DecidableEq, Repr

/-- The line with the time that has passed, and its line feed. -/
def OutputLine.render (elapsed : String) : OutputLine → String
  | text s => s ++ "\n"
  | complete => "✅ Complete in " ++ elapsed ++ "\n"

/-- What a command writes, and with which code it exits. -/
structure Outcome where
  exitCode : Nat := 0
  lines : List OutputLine := []
  warnings : List String := []
  error : Option String := none
  events : List Event := []
deriving DecidableEq, Repr

namespace Outcome

/-- The text of the output. -/
def output (o : Outcome) (elapsed : String) : String :=
  String.join (o.lines.map (OutputLine.render elapsed))

/-- The outcome of words that make no sense. -/
def misuse : Outcome := { exitCode := 2 }

/-- An outcome that is an error. -/
def failure (message : String) : Outcome := { exitCode := 1, error := some message }

/-- An outcome with some lines. -/
def success (lines : List String) : Outcome := { lines := lines.map .text }

/-- What comes first, then the other outcome. -/
def followedBy (first later : Outcome) : Outcome :=
  { later with
    lines := first.lines ++ later.lines
    warnings := first.warnings ++ later.warnings
    events := first.events ++ later.events }

end Outcome

/-- The version of the program. -/
def version : String := "vectra 0.0.1"

/-! ## Query answers -/

/-- The sign of a mode. -/
def modeIcon : QueryMode → String
  | .dense => "🧭"
  | .sparse => "🔤"
  | .hybrid => "🔀"

/-- How much of a text is shown. -/
def previewLength : Nat := 120

/-- The text with blanks in front up to a width. -/
def padLeft (width : Nat) (s : String) : String :=
  String.ofList (List.replicate (width - s.length) ' ') ++ s

/-- The two lines of a hit with its place. -/
def hitLines (place : Nat) (hit : Hit) : List String :=
  [padLeft 3 (toString place) ++ ". " ++ hit.1.id ++ " (score: " ++
      Decimal.fixedPlaces .single 4 hit.2.bits.toNat ++ ")",
    "     " ++ String.ofList (hit.1.text.toList.take previewLength)]

/-- The lines of hits from a place on. -/
def hitsLines (place : Nat) : List Hit → List String
  | [] => []
  | hit :: rest => hitLines place hit ++ hitsLines (place + 1) rest

/-- The lines of an answer. -/
def resultLines (mode : QueryMode) (format : OutputFormat) (r : QueryResult) : List String :=
  match format with
  | .json => [r.toDocument.prettyText]
  | .text =>
    if r.isEmpty then ["❌ No records found."]
    else (modeIcon mode ++ " " ++ toString r.size ++ " results (" ++ mode.name ++ " mode)") ::
      hitsLines 1 r.hits

/-! ## Commands on an open store -/

/-- A command on an open store: what it writes, and its connection afterwards. -/
abbrev Action := Connection → Outcome × Connection

/-- An action that also tells its events. -/
def Action.telling (events : Connection → List Event) (action : Action) : Action := fun c =>
  let (outcome, next) := action c
  ({ outcome with events := events c ++ outcome.events }, next)

/-- The outcome of an error. -/
def Outcome.ofError (e : Error) : Outcome := .failure e.message

/-- The outcome of a result. -/
def Outcome.ofResult {α : Type} (f : α → Outcome) : Except Error α → Outcome
  | .ok x => f x
  | .error e => .ofError e

/-- The events of adding batches. -/
def batchEvents (s : Store) : List (List Item) → Connection → List Event
  | [], _ => []
  | batch :: rest, c =>
    s.addEvents batch c ++ match s.add batch c with
      | .ok (_, c) => batchEvents s rest c
      | .error _ => []

/-- Adds items in batches. -/
def addItems (s : Store) (items : List Item) (batchSize : Nat) : Action :=
  let pieces := batchesOfSize batchSize items
  Action.telling (batchEvents s pieces) fun c =>
  let (result, next) := s.addBatches pieces c
  let header := Outcome.success
    ["🚀 Adding " ++ toString items.length ++ " records to " ++ s.names.data]
  let summary : Outcome :=
    { lines := [.complete, .text ("  📄 " ++ toString items.length ++ " records  📦 " ++
        toString pieces.length ++ " batches")] }
  (header.followedBy (.ofResult (fun _ => summary) result), next)

/-- Adds the records of a file; nothing is added if one of its lines is no record. -/
def addFile (s : Store) (d : Disk) (input : String) (batchSize : Nat) : Action := fun c =>
  match d.readText input with
  | .error why => (.failure why.message, c)
  | .ok content =>
    match itemsOfFile content with
    | .error line => (.failure (input ++ ":" ++ toString line), c)
    | .ok [] => ({ warnings := ["⚠️ No records found in input."] }, c)
    | .ok items => addItems s items batchSize c

/-- Answers a query. -/
def queryStore (s : Store) (q : Query) (format : OutputFormat) : Action :=
  Action.telling (s.queryEvents q) fun c =>
  (.ofResult (fun r => .success (resultLines q.mode format r)) (s.query q c), c)

/-- A text in bold. -/
def bold (s : String) : String := "\x1b[1m" ++ s ++ "\x1b[0m"

/-- Deletes a document and tells how many records that were. -/
def deleteDocument (s : Store) (docId : String) : Action :=
  Action.telling (s.deleteEvents docId) fun c =>
  match s.count c, s.delete docId c with
  | .ok before, .ok next =>
    (.ofResult (fun after => .success ["🗑️ Removed " ++ toString (before - after) ++
      " records of document " ++ bold docId]) (s.count next), next)
  | .error e, _ | _, .error e => (.ofError e, c)

/-- Shows statistics. -/
def showStats (s : Store) (database : String) : Action := fun c =>
  (.ofResult (fun stats => .success ["📊 Vectra Statistics (" ++ database ++ ")",
    "ℹ️ Database: 🗄️ " ++ database, stats.tableText]) (s.stats c), c)

/-! ## Whole runs -/

/-- Opens a store, acts on it and closes it unless that fails. -/
def withStore (d : Disk) (p : StoreParams) (action : Store → Disk → Action) : Outcome × Disk :=
  let session : Session := { disk := d }
  let opening : Outcome := { events := session.openEvents p }
  match session.openStore p with
  | (.error e, session) => (opening.followedBy (.ofError e), session.disk)
  | (.ok (store, number), session) =>
    let (outcome, c) := action store session.disk (session.connection number)
    let closing := if outcome.exitCode = 0 then store.closeEvents c else []
    (opening.followedBy { outcome with events := outcome.events ++ closing },
      (session.setConnection number c).disk)

/-- Writes a settings file that gives the parameters without overrides. -/
def writeSettings (d : Disk) (path : String) (p : StoreParams) (force : Bool) : Outcome × Disk :=
  match Settings.write d path (.ofStoreParams p) force with
  | .ok d => (.success ["✅ Wrote " ++ path], d)
  | .error e => (.failure e.message, d)

/-- The path of the settings file. -/
def General.path (g : General) : String := g.settingsPath.getD defaultSettingsPath

/-- The parameters that the settings file and the overrides give. -/
def General.storeParams (g : General) (d : Disk) : Except SettingsError StoreParams :=
  (Settings.load d g.path).map fun s => (s.getD {}).storeParams g.overrides

namespace Invocation

/-- Carries out a command whose parameters are resolved. -/
def runWith (i : Invocation) (d : Disk) (p : StoreParams) : Outcome × Disk :=
  match i.command with
  | .init force => writeSettings d i.general.path p force
  | .add input batchSize => withStore d p fun s d => addFile s d input batchSize
  | .query q format => withStore d p fun s _ => queryStore s q format
  | .delete docId => withStore d p fun s _ => deleteDocument s docId
  | .stats => withStore d p fun s _ => showStats s p.database

/-- Carries out a command. -/
def run (i : Invocation) (d : Disk) : Outcome × Disk :=
  match i.general.storeParams d with
  | .ok p => i.runWith d p
  | .error e => (.failure e.message, d)

end Invocation

/-- Does what the words of a command line ask for.  The texts that explain the usage, when help is
asked for or the words make no sense, are those of the parser of command lines and left out. -/
def run (d : Disk) (words : List String) : Outcome × Disk :=
  match Request.ofWords? words with
  | none => (.misuse, d)
  | some .version => (.success [version], d)
  | some .help => (.success [], d)
  | some (.run i) => i.run d

end HybridRetrieval.CommandLine
