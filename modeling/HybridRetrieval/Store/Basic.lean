import HybridRetrieval.Database.Schema
import HybridRetrieval.Store.Params
/-!
# Stores

A store is a handle on one logical table.  Opening creates the tables that are missing; a table that
has a lexeme index is opened as hybrid in any case, and an index that is new is filled from the
stored texts.  Handles may share a connection, and none of them can use it once it is closed.
-/

namespace HybridRetrieval

/-- A handle on a logical table. -/
structure Store where
  names : TableNames
  params : StoreParams
deriving DecidableEq, Repr

/-- The database behind a handle, or none once it is closed. -/
abbrev Connection := Option Database

/-- The database of a connection that is open. -/
def Connection.database (c : Connection) : Except Error Database :=
  match c with
  | some db => .ok db
  | none => .error .closed

namespace Store

def hybrid (s : Store) : Bool := s.params.hybridSearch

/-- The lexeme rows of a text. -/
def lexemeRowsOf (analyzer : Analyzer) (nodeId text : String) : List LexemeRow :=
  (analyzer.documentTerms text).map fun term => ⟨nodeId, term.1, term.2⟩

/-- The lexeme rows of stored rows; identifiers and texts must be texts. -/
def lexemeRowsOfRows (analyzer : Analyzer) : List DataRow → Except Error (List LexemeRow)
  | [] => .ok []
  | row :: rest => do
    let nodeId ← DataRow.textCell row.nodeId
    let text ← DataRow.textCell row.text
    let more ← lexemeRowsOfRows analyzer rest
    return lexemeRowsOf analyzer nodeId text ++ more

/-- Whether the database has a table where the lexemes of a logical table would be. -/
def isIndexed (names : TableNames) (db : Database) : Bool := (db.table? names.lexemes).isSome

/-- Fills a new lexeme index from the stored texts. -/
def fillIndex (names : TableNames) (analyzer : Analyzer) (db : Database) :
    Except Error Database := do
  let rows ← db.dataRows names.data
  let lexemes ← lexemeRowsOfRows analyzer rows
  return db.put names.lexemes (.lexemes lexemes)

/-- Opens a store on a database.  What was made stays even if a later step fails. -/
def openOn (p : StoreParams) (db : Database) : Except Error Store × Database :=
  match TableNames.ofName p.tableName with
  | .error e => (.error e, db)
  | .ok names =>
    let indexed := isIndexed names db
    let hybrid := p.hybridSearch || indexed
    let store : Store := ⟨names, { p with hybridSearch := hybrid }⟩
    match SchemaPart.makeAll names (schemaParts hybrid) db with
    | (.error e, made) => (.error e, made)
    | (.ok (), made) =>
      if hybrid && !indexed then
        match fillIndex names p.analyzer made with
        | .error e => (.error e, made)
        | .ok filled => (.ok store, filled)
      else (.ok store, made)

/-- Fails unless an embedding has the length of the store. -/
def checkEmbedding (s : Store) (embedding : List Single) : Except Error Unit :=
  if embedding.length = s.params.embedDim then .ok ()
  else .error (.dimensionMismatch s.params.embedDim embedding.length)

end Store

end HybridRetrieval
