import HybridRetrieval.Database.Basic
/-!
# Database images

The text in which a database is kept between runs: a JSON record of its tables and the names of its
indexes, each in their order.
-/

namespace HybridRetrieval

open Json

namespace Cell

/-- A cell as a document: its text, or its bytes as hexadecimal digits. -/
def toDocument : Cell → Document
  | text s => .record [("text", .ofString s)]
  | blob bytes => .record [("blob", .ofString (Hex.ofBytes bytes))]

/-- Either a text or bytes. -/
def decoder : Decoder Cell := fun depth d => do
  let parts ← (Record.pure Prod.mk
    |>.optional "text" Decoder.string
    |>.optional "blob" Decoder.string).decoder depth d
  match parts with
  | (some s, none) => return text s
  | (none, some digits) =>
    match Hex.bytes? digits.toList with
    | some bytes => return blob bytes
    | none => .error wrongValue
  | _ => .error wrongValue

end Cell

namespace DataRow

def toDocument (row : DataRow) : Document :=
  .record ([("node_id", row.nodeId.toDocument), ("text", row.text.toDocument),
      ("metadata", row.metadata.toDocument), ("relationships", row.relationships.toDocument)] ++
    (match row.refDocId with
      | some cell => [("ref_doc_id", cell.toDocument)]
      | none => []) ++
    [("embedding", row.embedding.toDocument)])

def decoder : Decoder DataRow :=
  (Record.pure DataRow.mk
    |>.required "node_id" Cell.decoder
    |>.required "text" Cell.decoder
    |>.required "metadata" Cell.decoder
    |>.required "relationships" Cell.decoder
    |>.optional "ref_doc_id" Cell.decoder
    |>.required "embedding" Cell.decoder).decoder

end DataRow

namespace LexemeRow

def toDocument (row : LexemeRow) : Document :=
  .record [("node_id", .ofString row.nodeId), ("lexeme", .ofString row.lexeme),
    ("frequency", .number (integerText row.frequency))]

def decoder : Decoder LexemeRow :=
  (Record.pure LexemeRow.mk
    |>.required "node_id" Decoder.string
    |>.required "lexeme" Decoder.string
    |>.required "frequency" Decoder.nat).decoder

end LexemeRow

namespace Table

/-- The rows of a table under the name of its kind. -/
def member : Table → String × Document
  | data rows => ("data", .array (rows.map DataRow.toDocument) .closed)
  | lexemes rows => ("lexemes", .array (rows.map LexemeRow.toDocument) .closed)

/-- The table of the one kind that is given. -/
def ofKinds? : Option (List DataRow) → Option (List LexemeRow) → Option Table
  | some rows, none => some (data rows)
  | none, some rows => some (lexemes rows)
  | _, _ => none

end Table

namespace Database

/-- A table with its name. -/
def entryDocument (entry : String × Table) : Document :=
  .record [("name", .ofString entry.1), entry.2.member]

/-- Reads a table with its name. -/
def entryDecoder : Decoder (String × Table) := fun depth d => do
  let (name, table) ← (Record.pure (fun name rows lexemes => (name, Table.ofKinds? rows lexemes))
    |>.required "name" Decoder.string
    |>.optional "data" (Decoder.list DataRow.decoder)
    |>.optional "lexemes" (Decoder.list LexemeRow.decoder)).decoder depth d
  match table with
  | some table => return (name, table)
  | none => .error wrongValue

/-- The text of a database. -/
def image (db : Database) : String :=
  (Document.record [("tables", .array (db.tables.map entryDocument) .closed),
    ("indexes", .array (db.indexes.map Document.ofString) .closed)]).text

/-- Reads the text of a database. -/
def ofImage? (s : String) : Option Database :=
  (decodeText (Record.pure mk
    |>.required "tables" (Decoder.list entryDecoder)
    |>.required "indexes" (Decoder.list Decoder.string)).decoder s.toList).toOption

end Database

end HybridRetrieval
