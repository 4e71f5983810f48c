import HybridRetrieval.Database.Basic
import HybridRetrieval.Database.TableNames
/-!
# Inspecting a database

Looking at the rows of a logical table and changing single cells, past any store.
-/

namespace HybridRetrieval

/-- A column of a data table. -/
inductive DataColumn where
  | nodeId
  | text
  | metadata
  | relationships
  | refDocId
  | embedding
deriving DecidableEq, Repr

/-- The column with a name. -/
def DataColumn.ofName? (name : String) : Option DataColumn :=
  [("node_id", nodeId), ("text", text), ("metadata", metadata), ("relationships", relationships),
    ("ref_doc_id", refDocId), ("embedding", embedding)].lookup name

/-- The row with one cell replaced. -/
def DataRow.setCell (row : DataRow) (column : DataColumn) (cell : Cell) : DataRow :=
  match column with
  | .nodeId => { row with nodeId := cell }
  | .text => { row with text := cell }
  | .metadata => { row with metadata := cell }
  | .relationships => { row with relationships := cell }
  | .refDocId => { row with refDocId := some cell }
  | .embedding => { row with embedding := cell }

/-- Order of lexeme rows by node, then by lexeme. -/
def LexemeRow.precedes (a b : LexemeRow) : Bool :=
  a.nodeId < b.nodeId || (a.nodeId == b.nodeId && a.lexeme ≤ b.lexeme)

namespace Database

/-- The tables of a logical name; there are none with an unusable name. -/
def tableNames (name : String) : Except Error TableNames :=
  (TableNames.ofName name).mapError fun _ => .storage

/-- The data rows of a logical table and its lexeme rows in order, if it has any. -/
def dump (db : Database) (name : String) :
    Except Error (List DataRow × Option (List LexemeRow)) := do
  let names ← tableNames name
  let rows ← db.dataRows names.data
  let lexemes := (db.lexemeRows names.lexemes).toOption
  return (rows, lexemes.map (·.mergeSort LexemeRow.precedes))

/-- Replaces a cell in the row of a node; two rows cannot have one node.  The number of changed rows
comes with the new database. -/
def edit (db : Database) (name id : String) (column : DataColumn) (cell : Cell) :
    Except Error (Nat × Database) := do
  let names ← tableNames name
  let rows ← db.dataRows names.data
  let isTarget (row : DataRow) : Bool := row.nodeId == .text id
  if column = .nodeId ∧ rows.any isTarget ∧
      rows.any (fun row => !isTarget row && row.nodeId == cell) then
    .error .storage
  else
    return ((rows.filter isTarget).length,
      db.put names.data (.data (rows.map fun row =>
        if isTarget row then row.setCell column cell else row)))

end Database

end HybridRetrieval
