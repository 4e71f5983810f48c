import HybridRetrieval.CommandLine.Parameter
import HybridRetrieval.Query.Basic
import HybridRetrieval.Settings.Basic
/-!
# Requests

What the words of a command line ask for.  General parameters may stand before or after the command;
where one is given in both places the later one counts.
-/

namespace HybridRetrieval.CommandLine

/-- How the answer to a query is written. -/
inductive OutputFormat where
  | text
  | json
deriving DecidableEq, Repr

/-- The format with a name. -/
def OutputFormat.ofName? (name : String) : Option OutputFormat :=
  [("text", text), ("json", json)].lookup name

/-- What to do. -/
inductive Command where
  | init (force : Bool)
  | add (input : String) (batchSize : Nat)
  | query (query : Query) (format : OutputFormat)
  | delete (docId : String)
  | stats

/-- The parameters that every command has. -/
structure General where
  verbose : Bool := false
  settingsPath : Option String := none
  overrides : Overrides := {}
deriving DecidableEq, Repr

/-- A command with its general parameters. -/
structure Invocation where
  general : General
  command : Command

/-- What a command line asks for. -/
inductive Request where
  | run (invocation : Invocation)
  | version
  | help

/-! ## Reading values -/

/-- A size: a whole number of 64 bits. -/
def size? (raw : String) : Option Nat :=
  match readNat? raw.toList with
  | some n => if n < unsignedBound then some n else none
  | none => none

/-- A path, which is not empty. -/
def path? (raw : String) : Option String := if raw.isEmpty then none else some raw

/-- The mode with a name in any case. -/
def mode? (raw : String) : Option QueryMode := (QueryMode.ofName raw).toOption

/-- Numbers between commas. -/
def numbers? (raw : String) : Option (List Single) :=
  (raw.toList.splitOn ',').mapM fun cs => (Numeral.read? cs).map Numeral.toSingle

/-! ## General parameters -/

/-- The parameters that every command has. -/
def generalParameters : List Parameter :=
  [{ name := "verbose", letter := some 'v', takes := .nothing },
    { name := "config", letter := some 'c' },
    { name := "database", letter := some 'd' },
    { name := "table", letter := some 't' },
    { name := "embed-dim" },
    { name := "hybrid", takes := .nothing },
    { name := "text-search-config" },
    { name := "help", letter := some 'h', takes := .stop }]

/-- The parameter that stands before a command only. -/
def versionParameter : Parameter := { name := "version", letter := some 'V', takes := .stop }

namespace General

/-- The general parameters among the given ones. -/
def ofGiven? (given : Given) : Option General := do
  let verbose ← given.flag? "verbose"
  let settingsPath ← given.single? "config" path?
  let database ← given.single? "database" path?
  let tableName ← given.single? "table" some
  let embedDim ← given.single? "embed-dim" size?
  let hybridSearch ← given.flag? "hybrid"
  let analyzer ← given.single? "text-search-config" Analyzer.ofName?
  return ⟨verbose, settingsPath, ⟨database, tableName, embedDim, hybridSearch, analyzer⟩⟩

/-- The parameters given later, and where they are silent those given earlier. -/
def followedBy (earlier later : General) : General where
  verbose := earlier.verbose || later.verbose
  settingsPath := later.settingsPath <|> earlier.settingsPath
  overrides :=
    { database := later.overrides.database <|> earlier.overrides.database
      tableName := later.overrides.tableName <|> earlier.overrides.tableName
      embedDim := later.overrides.embedDim <|> earlier.overrides.embedDim
      hybridSearch := earlier.overrides.hybridSearch || later.overrides.hybridSearch
      analyzer := later.overrides.analyzer <|> earlier.overrides.analyzer }

end General

/-! ## Commands -/

/-- A command's own parameters and how the command is made from the given ones. -/
structure CommandForm where
  parameters : List Parameter
  ofGiven? : Given → Option Command

namespace CommandForm

def init : CommandForm where
  parameters := [{ name := "force", takes := .nothing }]
  ofGiven? given := (given.flag? "force").map .init

/-- The number of records in a batch if none is given. -/
def defaultBatchSize : Nat := 64

def add : CommandForm where
  parameters := [{ name := "input", letter := some 'i' }, { name := "batch-size" }]
  ofGiven? given := do
    let input ← given.required? "input" path?
    let batchSize ← given.single? "batch-size" size?
    return .add input (batchSize.getD defaultBatchSize)

/-- The number of results if none is given. -/
def defaultTopK : Nat := 10

def query : CommandForm where
  parameters :=
    [{ name := "embedding", letter := some 'e', takes := .anyValue },
      { name := "text" },
      { name := "mode", letter := some 'm' },
      { name := "top-k", letter := some 'k' },
      { name := "sparse-top-k" },
      { name := "filter", letter := some 'F' },
      { name := "format" }]
  ofGiven? given := do
    let embedding := (← given.many? "embedding" numbers?).flatten
    let text ← given.single? "text" some
    let mode ← given.single? "mode" mode?
    let topK ← given.single? "top-k" size?
    let sparseTopK ← given.single? "sparse-top-k" size?
    let filters ← given.many? "filter" Filter.parse?
    let format ← given.single? "format" OutputFormat.ofName?
    let q : Query :=
      { embedding := if embedding.isEmpty then none else some embedding
        text := text
        topK := topK.getD defaultTopK
        sparseTopK := sparseTopK
        filters := if filters.isEmpty then none else some filters
        mode := mode.getD .dense }
    return .query q (format.getD .text)

def delete : CommandForm where
  parameters := [{ name := "ref-doc-id", letter := some 'r' }]
  ofGiven? given := (given.required? "ref-doc-id" some).map .delete

def stats : CommandForm where
  parameters := []
  ofGiven? _ := some .stats

/-- The commands by name. -/
def all : List (String × CommandForm) :=
  [("init", init), ("add", add), ("query", query), ("delete", delete), ("stats", stats)]

end CommandForm

namespace Request

/-- What the words behind the name of a command ask for. -/
def ofCommand? (earlier : General) (form : CommandForm) (words : List String) : Option Request :=
  match scan (form.parameters ++ generalParameters) words with
  | (_, .stopped _) => some .help
  | (given, .finished) => do
    let later ← General.ofGiven? given
    let command ← form.ofGiven? given
    return .run ⟨earlier.followedBy later, command⟩
  | _ => none

/-- Whether help can be had about words: none at all, or one command. -/
def isHelpTopic : List String → Bool
  | [] => true
  | [name] => name = "help" || (CommandForm.all.lookup name).isSome
  | _ => false

/-- What the words of a command line ask for, if they make sense. -/
def ofWords? (words : List String) : Option Request :=
  match scan (versionParameter :: generalParameters) words with
  | (given, .stopped name) =>
    (General.ofGiven? given).map fun _ => if name = versionParameter.name then .version else .help
  | (given, .word name rest) => do
    let earlier ← General.ofGiven? given
    match CommandForm.all.lookup name with
    | some form => ofCommand? earlier form rest
    | none => if name = "help" ∧ isHelpTopic rest then return .help else none
  | _ => none

end Request

end HybridRetrieval.CommandLine
