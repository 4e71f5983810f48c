import HybridRetrieval.Filter.Basic
import HybridRetrieval.Node.Basic
/-!
# Queries and results

A query asks for the nodes nearest to an embedding, for those that share lexemes with a text, or
for both.  A result lists nodes with their similarities, best first.
-/

namespace HybridRetrieval

open Json

/-- Which index answers a query. -/
inductive QueryMode where
  | dense
  | sparse
  | hybrid
deriving DecidableEq, Repr

namespace QueryMode

/-- The name of a mode in files and messages; dense search is the default. -/
def name : QueryMode → String
  | dense => "default"
  | sparse => "sparse"
  | hybrid => "hybrid"

/-- Whether the mode searches the lexeme index. -/
def usesText : QueryMode → Bool
  | dense => false
  | sparse | hybrid => true

/-- The mode that a name in any case means. -/
def ofName (s : String) : Except Error QueryMode :=
  match [("default", dense), ("dense", dense), ("sparse", sparse), ("text", sparse),
      ("lexical", sparse), ("hybrid", hybrid)].lookup (lowerCaseString s) with
  | some mode => .ok mode
  | none => .error (.unsupportedMode s)

/-- The names that stand for modes in JSON. -/
def variants : List (String × QueryMode) := [dense, sparse, hybrid].map fun m => (m.name, m)

end QueryMode

/-- What is asked for.  `topK` bounds the dense rows and `sparseTopK`, if given, the sparse ones;
`alpha` has no effect. -/
@[ext]
structure Query where
  embedding : Option (List Single) := none
  text : Option String := none
  topK : Nat := 1
  sparseTopK : Option Nat := none
  filters : Option (List Filter) := none
  mode : QueryMode := .dense
  alpha : Option Single := none

namespace Query

/-- A query for the nearest neighbours of an embedding. -/
def dense (embedding : List Single) (topK : Nat) : Query :=
  { embedding := some embedding, topK := topK }

/-- The bound of the sparse rows. -/
def effectiveSparseTopK (q : Query) : Nat := q.sparseTopK.getD q.topK

/-- The filters, none if there are none. -/
def filterList (q : Query) : List Filter := q.filters.getD []

def requireText (q : Query) : Except Error String :=
  match q.text with
  | some s => .ok s
  | none => .error .missingQueryString

def requireEmbedding (q : Query) : Except Error (List Single) :=
  match q.embedding with
  | some e => .ok e
  | none => .error .missingQueryEmbedding

def decoder : Decoder Query :=
  (Record.pure Query.mk
    |>.optional "query_embedding" (Decoder.list Decoder.single)
    |>.optional "query_str" Decoder.string
    |>.required "similarity_top_k" Decoder.nat
    |>.optional "sparse_top_k" Decoder.nat
    |>.optional "filters" Filter.listDecoder
    |>.required "mode" (Decoder.variant QueryMode.variants)
    |>.optional "alpha" Decoder.single).decoder

end Query

/-- A node found, with its similarity. -/
abbrev Hit := Node × Single

/-- Nodes with their similarities and identifiers; the lists go together by position. -/
@[ext]
structure QueryResult where
  nodes : List Node := []
  similarities : List Single := []
  ids : List String := []

namespace QueryResult

/-- The result that lists the given hits. -/
def ofHits (hits : List Hit) : QueryResult :=
  ⟨hits.map (·.1), hits.map (·.2), hits.map (·.1.id)⟩

/-- The hits of a result, as far as both lists go. -/
def hits (r : QueryResult) : List Hit := r.nodes.zip r.similarities

def size (r : QueryResult) : Nat := r.nodes.length

def isEmpty (r : QueryResult) : Bool := r.nodes.isEmpty

def decoder : Decoder QueryResult :=
  (Record.pure QueryResult.mk
    |>.required "nodes" (Decoder.list Node.decoder)
    |>.required "similarities" (Decoder.list Decoder.single)
    |>.required "ids" (Decoder.list Decoder.string)).decoder

/-- A 32-bit number in JSON; one that is not finite has no spelling and is null. -/
def similarityDocument (x : Single) : Document :=
  if x.isFinite then .number (floatText .single .single x.bits.toNat) else .null

def toDocument (r : QueryResult) : Document :=
  .record [("nodes", .array (r.nodes.map Node.toDocument) .closed),
    ("similarities", .array (r.similarities.map similarityDocument) .closed),
    ("ids", .array (r.ids.map Document.ofString) .closed)]

end QueryResult

end HybridRetrieval
