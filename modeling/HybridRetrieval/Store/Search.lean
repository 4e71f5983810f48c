import HybridRetrieval.Embedding.Cosine
import HybridRetrieval.Filter.Evaluation
import HybridRetrieval.Number.Summation
import HybridRetrieval.Query.Fusion
import HybridRetrieval.Store.Basic
import HybridRetrieval.Store.Statement
/-!
# Searching a store

Dense search orders the rows that satisfy the filters by their cosine distance from an embedding,
sparse search orders the rows that share lexemes with a text by rank, and hybrid search fuses both.
Ties keep the order of the rows.  A search that is too large for one statement fails.
-/

namespace HybridRetrieval.Store

/-- A row found, with its score. -/
abbrev Scored (α : Type) := DataRow × α

/-- Scores the rows that satisfy the filters. -/
def scoreRows {α : Type} (filters : List Filter) (score : DataRow → Except Error α) :
    List DataRow → Except Error (List (Scored α))
  | [] => .ok []
  | row :: rest => do
    if ← Filter.allHold filters row.metadata then
      let x ← score row
      let more ← scoreRows filters score rest
      return (row, x) :: more
    else scoreRows filters score rest

/-- The nodes of scored rows with their similarities. -/
def toHits {α : Type} (similarity : α → Except Error Single) :
    List (Scored α) → Except Error (List Hit)
  | [] => .ok []
  | (row, x) :: rest => do
    let node ← row.toNode
    let y ← similarity x
    let more ← toHits similarity rest
    return (node, y) :: more

/-! ## Dense search -/

/-- Whether one distance comes before another or ties with it; what is not a number comes first. -/
def distanceLE (a b : Single) : Bool := a.isNaN || (!b.isNaN && a.rank ≤ b.rank)

/-- The similarity for a distance; one that is not a number cannot be returned. -/
def similarityOf (distance : Single) : Except Error Single :=
  if distance.isNaN then .error .storage
  else .ok (Double.one - distance.toDouble).toSingle

/-- The distance of a row's embedding from another one. -/
def distanceFrom (embedding : List Single) (row : DataRow) : Except Error Single := do
  let bytes ← DataRow.blobCell row.embedding
  return Embedding.cosineDistance (Embedding.decode bytes) embedding

/-- The nearest rows that satisfy the filters. -/
def denseHits (embedding : List Single) (limit : Nat) (filters : List Filter)
    (rows : List DataRow) : Except Error (List Hit) := do
  if limit = 0 then return []
  let scored ← scoreRows filters (distanceFrom embedding) rows
  let sorted := scored.mergeSort fun a b => distanceLE a.2 b.2
  toHits similarityOf (sorted.take limit)

/-- The nearest neighbours of an embedding. -/
def denseQuery (s : Store) (embedding : List Single) (limit : Nat) (filters : List Filter)
    (c : Connection) : Except Error QueryResult := do
  s.checkEmbedding embedding
  Predicate.checkKeys filters
  let db ← c.database
  (StatementSize.dense filters).prepare
  let rows ← db.dataRows s.names.data
  return .ofHits (← denseHits embedding limit filters rows)

/-! ## Sparse search -/

/-- What a lexeme adds to the rank of a row in which it is so frequent. -/
def rankOfFrequency (frequency : Nat) : Double := .one - .one / (.one + .ofInt frequency)

/-- The lexeme rows of a data row that belong to a query. -/
def matching (terms : List String) (lexemes : List LexemeRow) (row : DataRow) : List LexemeRow :=
  lexemes.filter fun l => row.nodeId == .text l.nodeId && terms.contains l.lexeme

/-- The rank of a row by its lexeme rows. -/
def rank (found : List LexemeRow) : Double :=
  .sum (found.map fun l => rankOfFrequency l.frequency)

/-- The best rows that share a lexeme with the query and satisfy the filters. -/
def sparseHits (terms : List String) (limit : Nat) (filters : List Filter)
    (lexemes : List LexemeRow) (rows : List DataRow) : Except Error (List Hit) := do
  if limit = 0 then return []
  let candidates := rows.filter fun row => !(matching terms lexemes row).isEmpty
  let scored ← scoreRows filters (fun row => .ok (rank (matching terms lexemes row))) candidates
  let sorted := scored.mergeSort fun a b => decide (b.2.rank ≤ a.2.rank)
  toHits (fun x => .ok x.toSingle) (sorted.take limit)

/-- The rows that share lexemes with a text; a text without lexemes finds nothing. -/
def sparseQuery (s : Store) (text : String) (limit : Nat) (filters : List Filter)
    (c : Connection) : Except Error QueryResult := do
  let terms := s.params.analyzer.queryTerms text
  if terms.isEmpty then return {}
  Predicate.checkKeys filters
  let db ← c.database
  (StatementSize.sparse terms filters).prepare
  let rows ← db.dataRows s.names.data
  let lexemes ← db.lexemeRows s.names.lexemes
  return .ofHits (← sparseHits terms limit filters lexemes rows)

/-! ## Queries -/

/-- Text can be searched only in a hybrid store. -/
def requireHybrid (s : Store) : Except Error Unit :=
  if s.hybrid then .ok () else .error .hybridSearchDisabled

/-- Answers a query in its mode. -/
def query (s : Store) (q : Query) (c : Connection) : Except Error QueryResult :=
  match q.mode with
  | .dense => do
    let embedding ← q.requireEmbedding
    s.denseQuery embedding q.topK q.filterList c
  | .sparse => do
    s.requireHybrid
    let text ← q.requireText
    s.sparseQuery text q.effectiveSparseTopK q.filterList c
  | .hybrid => do
    s.requireHybrid
    let text ← q.requireText
    let embedding ← q.requireEmbedding
    let dense ← s.denseQuery embedding q.topK q.filterList c
    let sparse ← s.sparseQuery text q.effectiveSparseTopK q.filterList c
    return fuse dense sparse

end HybridRetrieval.Store
