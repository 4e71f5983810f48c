import HybridRetrieval.Database.Basic
import HybridRetrieval.Database.TableNames
/-!
# The schema of a store

A store needs up to four things in its database, and makes those that are missing one after the
other.  Each is made by a statement of its own, so what came before a statement that fails stays.
-/

namespace HybridRetrieval

/-- Whether a table has the column of source documents. -/
def Table.isData : Table → Bool
  | data _ => true
  | lexemes _ => false

/-- Whether a table has the column of lexemes. -/
def Table.isLexemes : Table → Bool
  | data _ => false
  | lexemes _ => true

/-- Something that a store needs in its database. -/
inductive SchemaPart where
  | dataTable
  | lexemeTable
  | documentIndex
  | lexemeIndex
deriving DecidableEq, Repr

namespace SchemaPart

/-- The statement that makes a part. -/
def statement (names : TableNames) : SchemaPart → String
  | dataTable =>
    "\nCREATE TABLE IF NOT EXISTS " ++ names.data ++ " (\n" ++
    "    id INTEGER PRIMARY KEY AUTOINCREMENT,\n" ++
    "    node_id TEXT NOT NULL UNIQUE,\n" ++
    "    text TEXT NOT NULL,\n" ++
    "    metadata TEXT NOT NULL DEFAULT '\x7b\x7d',\n" ++
    "    relationships TEXT NOT NULL DEFAULT '\x7b\x7d',\n" ++
    "    ref_doc_id TEXT,\n" ++
    "    embedding BLOB NOT NULL\n" ++
    ")\n"
  | lexemeTable =>
    "\nCREATE TABLE IF NOT EXISTS " ++ names.lexemes ++ " (\n" ++
    "    node_id TEXT NOT NULL,\n" ++
    "    lexeme TEXT NOT NULL,\n" ++
    "    frequency INTEGER NOT NULL,\n" ++
    "    PRIMARY KEY (node_id, lexeme)\n" ++
    ")\n"
  | documentIndex =>
    "CREATE INDEX IF NOT EXISTS " ++ names.documentIndex ++ " ON " ++ names.data ++ "(ref_doc_id)"
  | lexemeIndex =>
    "CREATE INDEX IF NOT EXISTS " ++ names.lexemeIndex ++ " ON " ++ names.lexemes ++ "(lexeme)"

/-- Carries out the statement. -/
def make (names : TableNames) (db : Database) : SchemaPart → Except Error Database
  | dataTable => db.createTable names.data (.data [])
  | lexemeTable => db.createTable names.lexemes (.lexemes [])
  | documentIndex => db.createIndex names.documentIndex names.data Table.isData
  | lexemeIndex => db.createIndex names.lexemeIndex names.lexemes Table.isLexemes

/-- Whether the database has something under the name of a part. -/
def isPresent (names : TableNames) (db : Database) : SchemaPart → Bool
  | dataTable => (db.table? names.data).isSome
  | lexemeTable => (db.table? names.lexemes).isSome
  | documentIndex => db.indexes.contains names.documentIndex
  | lexemeIndex => db.indexes.contains names.lexemeIndex

/-- Makes parts up to the first that cannot be made. -/
def makeAll (names : TableNames) : List SchemaPart → Database → Except Error Unit × Database
  | [], db => (.ok (), db)
  | part :: rest, db =>
    match part.make names db with
    | .ok db => makeAll names rest db
    | .error e => (.error e, db)

end SchemaPart

/-- What a store needs, in the order in which it is made. -/
def schemaParts (hybrid : Bool) : List SchemaPart :=
  if hybrid then [.dataTable, .lexemeTable, .documentIndex, .lexemeIndex]
  else [.dataTable, .documentIndex]

/-- All statements that create what a store needs, in order. -/
def TableNames.schemaStatements (names : TableNames) (hybrid : Bool) : List String :=
  (schemaParts hybrid).map (SchemaPart.statement names)

end HybridRetrieval
