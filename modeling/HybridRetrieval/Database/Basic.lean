import HybridRetrieval.Database.Cell
import HybridRetrieval.Embedding.Bytes
import HybridRetrieval.Node.Basic
/-!
# The database

A database has tables of two kinds: data rows, one for each node in the order in which nodes first
came, and lexeme rows, one for each lexeme of a node.  Rows that a store wrote hold texts and, as
the embedding, bytes; other hands may have put anything there, so reading a row back may fail.
Beside the tables a database has indexes, of which only the names matter.
-/

namespace HybridRetrieval

/-- A row of a data table. -/
@[ext]
structure DataRow where
  nodeId : Cell
  text : Cell
  metadata : Cell
  relationships : Cell
  refDocId : Option Cell
  embedding : Cell
deriving DecidableEq, Repr

/-- A row of a lexeme table. -/
@[ext]
structure LexemeRow where
  nodeId : String
  lexeme : String
  frequency : Nat
deriving DecidableEq, Repr

/-- A table of either kind. -/
inductive Table where
  | data (rows : List DataRow)
  | lexemes (rows : List LexemeRow)
deriving DecidableEq, Repr

namespace DataRow

/-- The row of an item. -/
def ofItem (item : Item) : DataRow where
  nodeId := .text item.node.id
  text := .text item.node.text
  metadata := .text item.node.metadata.text
  relationships := .text item.node.relationships.text
  refDocId := item.node.refDocId.map .text
  embedding := .blob (Embedding.encode item.embedding)

/-- Reads a text cell as JSON. -/
def decodeCell {α : Type} (decoder : Json.Decoder α) (cell : Cell) : Except Error α :=
  match cell.text? with
  | none => .error .storage
  | some s => (Json.decodeText decoder s.toList).mapError fun _ => .storage

/-- A cell that must hold a text. -/
def textCell (cell : Cell) : Except Error String :=
  match cell.text? with
  | some s => .ok s
  | none => .error .storage

/-- A cell that must hold bytes. -/
def blobCell (cell : Cell) : Except Error (List UInt8) :=
  match cell.blob? with
  | some bytes => .ok bytes
  | none => .error .storage

/-- The node of a row. -/
def toNode (row : DataRow) : Except Error Node := do
  let metadata ← decodeCell Metadata.decoder row.metadata
  let relationships ← decodeCell Relationships.decoder row.relationships
  let id ← textCell row.nodeId
  let text ← textCell row.text
  return ⟨id, text, metadata, relationships⟩

/-- The item of a row. -/
def toItem (row : DataRow) : Except Error Item := do
  let node ← row.toNode
  let bytes ← blobCell row.embedding
  return ⟨node, Embedding.decode bytes⟩

/-- Puts a row in the place of the row with its node, or else at the end. -/
def upsert (row : DataRow) : List DataRow → List DataRow
  | [] => [row]
  | other :: rest => if other.nodeId = row.nodeId then row :: rest else other :: upsert row rest

end DataRow

/-- Tables by name, and the names of indexes. -/
@[ext]
structure Database where
  tables : List (String × Table)
  indexes : List String := []
deriving DecidableEq, Repr

namespace Database

/-- The database without tables. -/
def empty : Database := { tables := [] }

instance : Inhabited Database := ⟨empty⟩

def table? (db : Database) (name : String) : Option Table := db.tables.lookup name

/-- Replaces a table or adds it. -/
def put (db : Database) (name : String) (table : Table) : Database :=
  { db with
    tables :=
      if (db.table? name).isSome then
        db.tables.map fun entry => if entry.1 = name then (name, table) else entry
      else db.tables ++ [(name, table)] }

/-- Creates a table unless there is one with its name; an index may have taken the name. -/
def createTable (db : Database) (name : String) (table : Table) : Except Error Database :=
  if (db.table? name).isSome then .ok db
  else if db.indexes.contains name then .error .storage
  else .ok (db.put name table)

/-- Creates an index on a table unless there is one with its name.  The table must be of a kind that
has the column, and no table may have the name. -/
def createIndex (db : Database) (name table : String) (hasColumn : Table → Bool) :
    Except Error Database :=
  match db.table? table with
  | none => .error .storage
  | some t =>
    if db.indexes.contains name then .ok db
    else if (db.table? name).isSome || !hasColumn t then .error .storage
    else .ok { db with indexes := db.indexes ++ [name] }

/-- The rows of a data table. -/
def dataRows (db : Database) (name : String) : Except Error (List DataRow) :=
  match db.table? name with
  | some (.data rows) => .ok rows
  | _ => .error .storage

/-- The rows of a lexeme table. -/
def lexemeRows (db : Database) (name : String) : Except Error (List LexemeRow) :=
  match db.table? name with
  | some (.lexemes rows) => .ok rows
  | _ => .error .storage

end Database

end HybridRetrieval
