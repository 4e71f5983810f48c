import HybridRetrieval.Report.Table
import HybridRetrieval.Store.Basic
/-!
# Reading single rows and counts
-/

namespace HybridRetrieval.Store

/-- The item with an identifier, if it is stored. -/
def get (s : Store) (id : String) (c : Connection) : Except Error (Option Item) := do
  let db ← c.database
  let rows ← db.dataRows s.names.data
  match rows.find? fun row => row.nodeId = .text id with
  | some row => return some (← row.toItem)
  | none => return none

/-- The number of stored nodes. -/
def count (s : Store) (c : Connection) : Except Error Nat := do
  let db ← c.database
  return (← db.dataRows s.names.data).length

/-- What is told about a store; without an index there is no number of lexemes. -/
structure Stats where
  table : String
  nodes : Nat
  lexemes : Option Nat
  embedDim : Nat
  analyzer : Analyzer
deriving DecidableEq, Repr

/-- The statistics of a store. -/
def stats (s : Store) (c : Connection) : Except Error Stats := do
  let nodes ← s.count c
  let db ← c.database
  let lexemes ← if s.hybrid then do
      pure (some (← db.lexemeRows s.names.lexemes).length)
    else pure none
  return ⟨s.names.data, nodes, lexemes, s.params.embedDim, s.params.analyzer⟩

namespace Stats

/-- The statistics as lines of text. -/
def display (s : Stats) : String :=
  "Store Statistics:\n  Table: " ++ s.table ++ "\n  Nodes: " ++ toString s.nodes ++
    "\n  Embedding dim: " ++ toString s.embedDim ++ "\n  Lexemes: " ++
    (match s.lexemes with
      | some n => toString n ++ " (" ++ s.analyzer.name ++ ")"
      | none => "(hybrid search disabled)") ++ "\n"

/-- The statistics as a table. -/
def tableText (s : Stats) : String :=
  Report.table ([("Table", s.table), ("Nodes", toString s.nodes),
      ("Embedding dim", toString s.embedDim)] ++
    match s.lexemes with
    | some n => [("Lexemes", toString n), ("Text search", s.analyzer.name)]
    | none => [("Lexemes", "hybrid search disabled")])

end Stats

end HybridRetrieval.Store
