import HybridRetrieval.Settings.Basic
import HybridRetrieval.Toml.Reader
/-!
# The settings file

Settings are read from and written to TOML.  Keys that are no settings are ignored; a setting of
the wrong type makes the file unreadable.
-/

namespace HybridRetrieval.Settings

/-- Reads an entry if it is there; it must then fit. -/
def setting? {α : Type} (entries : Toml.Entries) (key : String) (read : Toml → Option α) :
    Option (Option α) :=
  match entries.lookup key with
  | none => some none
  | some value => (read value).map some

def ofString? : Toml → Option String
  | .string s => some s
  | _ => none

/-- An integer that is not negative. -/
def ofInteger? : Toml → Option Nat
  | .integer n => if 0 ≤ n then some n.toNat else none
  | _ => none

def ofBoolean? : Toml → Option Bool
  | .boolean b => some b
  | _ => none

/-- Whether a value is an array or a table without content. -/
def isEmptyValue : Toml → Bool
  | .array items => items.isEmpty
  | .inline entries | .table _ _ entries => entries.isEmpty
  | .tables all => all.isEmpty
  | _ => false

/-- An analyzer by its name, or by a table whose only key is its name with an empty value. -/
def ofAnalyzer? (value : Toml) : Option Analyzer :=
  match value with
  | .string s => Analyzer.variants.lookup s
  | .inline [(key, value)] | .table _ _ [(key, value)] =>
    if isEmptyValue value then Analyzer.variants.lookup key else none
  | _ => none

/-- The settings of a document. -/
def ofToml? (entries : Toml.Entries) : Option Settings := do
  let database ← setting? entries "database" ofString?
  let tableName ← setting? entries "table_name" ofString?
  let embedDim ← setting? entries "embed_dim" ofInteger?
  let hybridSearch ← setting? entries "hybrid_search" ofBoolean?
  let analyzer ← setting? entries "text_search_config" ofAnalyzer?
  return ⟨database, tableName, embedDim, hybridSearch, analyzer⟩

/-- Reads the text of a settings file. -/
def parse? (text : String) : Option Settings := (Toml.read? text.toList).bind ofToml?

/-- A line of the file, if the setting is set. -/
def line {α : Type} (key : String) (write : α → List Char) : Option α → List Char
  | none => []
  | some x => key.toList ++ [' ', '=', ' '] ++ write x ++ ['\n']

/-- The text of a truth value. -/
def writeBoolean (b : Bool) : List Char :=
  if b then ['t', 'r', 'u', 'e'] else ['f', 'a', 'l', 's', 'e']

/-- The largest integer that the file can hold. -/
def maxInteger : Nat := signedBound - 1

/-- Whether every setting can be written. -/
def isWritable (s : Settings) : Bool :=
  match s.embedDim with
  | some n => n ≤ maxInteger
  | none => true

/-- The text of a settings file: a line for every setting that is set. -/
def render (s : Settings) : String :=
  String.ofList (line "database" Toml.writeString s.database ++
    line "table_name" Toml.writeString s.tableName ++
    line "embed_dim" Decimal.digitChars s.embedDim ++
    line "hybrid_search" writeBoolean s.hybridSearch ++
    line "text_search_config" (fun a => Toml.writeString a.name) s.analyzer)

end HybridRetrieval.Settings
