import HybridRetrieval.Json.Document
import HybridRetrieval.Text.Quoted
/-!
# Errors

What can go wrong in a store, by cause, and the message for each cause.
-/

namespace HybridRetrieval

/-- Why an operation failed. -/
inductive Error where
  /-- The database refused or holds something unreadable. -/
  | storage
  /-- A JSON text or value does not fit. -/
  | serialization (fault : Json.Fault)
  /-- A file or directory could not be used. -/
  | io
  | invalidTableName (name : String)
  /-- A filter's key is empty or contains a double quote. -/
  | unsupportedKey (key : String)
  | unknownRelationship (name : String)
  | dimensionMismatch (expected actual : Nat)
  | missingQueryString
  | missingQueryEmbedding
  | hybridSearchDisabled
  | unknownAnalyzer (name : String)
  | unsupportedMode (name : String)
  | closed
deriving DecidableEq, Repr

/-- The message for an error. -/
def Error.message : Error → String
  | storage => "Storage error"
  | serialization _ => "Serialization error"
  | io => "IO error"
  | invalidTableName name => "Invalid table name: " ++ name
  | unsupportedKey key => "Invalid metadata filter: unsupported metadata key: " ++ quoted key
  | unknownRelationship name => "Invalid metadata filter: Unknown node relationship: " ++ name
  | dimensionMismatch expected actual =>
    "Embedding dimension mismatch: expected " ++ toString expected ++ ", got " ++ toString actual
  | missingQueryString => "query_str must be specified for a sparse vector query."
  | missingQueryEmbedding => "query_embedding must be specified for a dense vector query."
  | hybridSearchDisabled =>
    "Sparse and hybrid queries require a store created with hybrid_search enabled"
  | unknownAnalyzer name =>
    "Unknown text search config: " ++ name ++ " (expected english or simple)"
  | unsupportedMode name => "Unsupported query mode: " ++ name
  | closed => "Vector store is closed"

end HybridRetrieval
