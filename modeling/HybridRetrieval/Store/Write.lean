import HybridRetrieval.Store.Basic
/-!
# Writing to a store

Adding replaces the rows of nodes that are stored already and appends the others; deleting removes
the rows of one source document.  Both keep the lexeme rows in step if the store is hybrid, and
happen entirely or not at all.
-/

namespace HybridRetrieval

namespace Store

/-- The lexeme rows after a node's text is replaced. -/
def replaceLexemes (analyzer : Analyzer) (node : Node) (rows : List LexemeRow) : List LexemeRow :=
  (rows.filter fun row => row.nodeId ≠ node.id) ++ lexemeRowsOf analyzer node.id node.text

/-- Changes the lexeme rows of a hybrid store. -/
def changeLexemes (s : Store) (f : List LexemeRow → List LexemeRow) (db : Database) :
    Except Error Database :=
  if s.hybrid then do
    let rows ← db.lexemeRows s.names.lexemes
    return db.put s.names.lexemes (.lexemes (f rows))
  else .ok db

/-- Writes items whose embeddings have the right length. -/
def writeItems (s : Store) (items : List Item) (db : Database) : Except Error Database := do
  let rows ← db.dataRows s.names.data
  let rows := items.foldl (fun rows item => DataRow.upsert (.ofItem item) rows) rows
  let db := db.put s.names.data (.data rows)
  s.changeLexemes (fun lexemes =>
    items.foldl (fun lexemes item => replaceLexemes s.params.analyzer item.node lexemes) lexemes) db

/-- Fails at the first embedding of the wrong length. -/
def checkItems (s : Store) (items : List Item) : Except Error Unit :=
  items.forM fun item => s.checkEmbedding item.embedding

/-- Adds items or replaces those stored already; the identifiers come back in order. -/
def add (s : Store) (items : List Item) (c : Connection) :
    Except Error (List String × Connection) := do
  s.checkItems items
  let db ← c.database
  let db ← s.writeItems items db
  return (items.map Item.id, some db)

/-- Whether a row belongs to a source document. -/
def isOfDocument (docId : String) (row : DataRow) : Bool := row.refDocId == some (.text docId)

/-- Removes the rows of a source document, with their lexemes if the store is hybrid. -/
def delete (s : Store) (docId : String) (c : Connection) : Except Error Connection := do
  let db ← c.database
  let rows ← db.dataRows s.names.data
  let removed := rows.filter (isOfDocument docId)
  let db ← s.changeLexemes (fun lexemes =>
    lexemes.filter fun row => !removed.any fun r => r.nodeId == .text row.nodeId) db
  return some (db.put s.names.data (.data (rows.filter fun row => !isOfDocument docId row)))

end Store

/-- A change of what is stored. -/
inductive Write where
  | add (items : List Item)
  | delete (docId : String)

namespace Store

/-- Carries out a write. -/
def write (s : Store) (w : Write) (c : Connection) : Except Error Connection :=
  match w with
  | .add items => do return (← s.add items c).2
  | .delete docId => s.delete docId c

end Store

end HybridRetrieval
