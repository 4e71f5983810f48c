import HybridRetrieval.Error
import HybridRetrieval.Json.Decoder
import HybridRetrieval.Lexeme.Analyzer
/-!
# Store parameters

What a store is opened with: a database file or the name of a private database in memory, a logical
table name, the length of embeddings, whether lexemes are indexed, and by which analyzer.
-/

namespace HybridRetrieval

open Json

/-- The analyzer that a name in any case means. -/
def Analyzer.ofName (s : String) : Except Error Analyzer :=
  match Analyzer.ofName? s with
  | some a => .ok a
  | none => .error (.unknownAnalyzer s)

/-- The length of embeddings if none is given. -/
def defaultEmbedDim : Nat := 1536

/-- The database that stands for a private one in memory. -/
def inMemory : String := ":memory:"

/-- What a store is opened with. -/
structure StoreParams where
  database : String
  tableName : String
  embedDim : Nat := defaultEmbedDim
  hybridSearch : Bool := false
  analyzer : Analyzer := .english
deriving DecidableEq, Repr

namespace StoreParams

/-- The parameters of a table in memory. -/
def inMemory (tableName : String) : StoreParams :=
  { database := HybridRetrieval.inMemory, tableName := tableName }

def decoder : Decoder StoreParams :=
  (Record.pure StoreParams.mk
    |>.required "database" Decoder.string
    |>.required "table_name" Decoder.string
    |>.required "embed_dim" Decoder.nat
    |>.required "hybrid_search" Decoder.bool
    |>.required "text_search_config" (Decoder.variant Analyzer.variants)).decoder

end StoreParams

end HybridRetrieval
