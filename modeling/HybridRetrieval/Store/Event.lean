import HybridRetrieval.Store.Read
import HybridRetrieval.Store.Search
import HybridRetrieval.Store.Write
/-!
# Events

What a store tells about its work: each operation has the list of events that it gives rise to, in
order, also when it fails midway.
-/

namespace HybridRetrieval

/-- How important an event is. -/
inductive EventLevel where
  | debug
  | info
  | warn
deriving DecidableEq, Repr

def EventLevel.name : EventLevel → String
  | debug => "DEBUG"
  | info => "INFO"
  | warn => "WARN"

/-- Something that a store tells. -/
inductive Event where
  | indexFound (table : String)
  | indexFilled (rows : Nat) (table : String)
  | opened (table : String) (params : StoreParams)
  | added (nodes : Nat) (table : String)
  | deleted (nodes : Nat) (document table : String)
  | alphaIgnored
  | denseAnswered (nodes : Nat)
  | sparseAnswered (text : String) (nodes : Nat)
  | nothingToSearch (text : String)
  | closed (table : String)
deriving DecidableEq, Repr

namespace Event

def level : Event → EventLevel
  | indexFound _ | indexFilled _ _ | opened _ _ | closed _ => .info
  | alphaIgnored => .warn
  | _ => .debug

def message : Event → String
  | indexFound table => table ++ " has a lexeme index, opening with hybrid search"
  | indexFilled rows table =>
    "Indexed lexemes of " ++ toString rows ++ " existing rows in " ++ table
  | opened table p =>
    "Opened vector table " ++ table ++ " in " ++ quotedPath p.database ++ " (dim " ++
      toString p.embedDim ++ ", hybrid: " ++ (if p.hybridSearch then "true" else "false") ++ ")"
  | added nodes table => "Added " ++ toString nodes ++ " nodes to " ++ table
  | deleted nodes document table =>
    "Deleted " ++ toString nodes ++ " nodes of document " ++ document ++ " from " ++ table
  | alphaIgnored => "alpha is not supported by hybrid fusion and will be ignored"
  | denseAnswered nodes => "Dense query returned " ++ toString nodes ++ " nodes"
  | sparseAnswered text nodes =>
    "Sparse query " ++ quoted text ++ " returned " ++ toString nodes ++ " nodes"
  | nothingToSearch text => "Sparse query " ++ quoted text ++ " has no searchable terms"
  | closed table => "Closed vector table " ++ table

end Event

namespace Store

/-- The number of rows of a data table. -/
def rowCount (names : TableNames) (db : Database) : Nat :=
  match db.dataRows names.data with
  | .ok rows => rows.length
  | .error _ => 0

/-- The events of opening a store. -/
def openEvents (p : StoreParams) (db : Database) : List Event :=
  match TableNames.ofName p.tableName with
  | .error _ => []
  | .ok names =>
    let indexed := isIndexed names db
    (if indexed && !p.hybridSearch then [.indexFound names.data] else []) ++
      match (openOn p db).1 with
      | .error _ => []
      | .ok store =>
        let rows := rowCount names db
        (if store.hybrid && !indexed && 0 < rows then [.indexFilled rows names.data] else []) ++
          [.opened names.data store.params]

/-- The events of adding items. -/
def addEvents (s : Store) (items : List Item) (c : Connection) : List Event :=
  match s.add items c with
  | .ok (ids, _) => [.added ids.length s.names.data]
  | .error _ => []

/-- The events of deleting a document. -/
def deleteEvents (s : Store) (docId : String) (c : Connection) : List Event :=
  match s.delete docId c, s.count c, (s.delete docId c).bind s.count with
  | .ok _, .ok before, .ok after => [.deleted (before - after) docId s.names.data]
  | _, _, _ => []

/-- The event of a dense search. -/
def denseEvents (result : Except Error QueryResult) : List Event :=
  match result with
  | .ok r => [.denseAnswered r.size]
  | .error _ => []

/-- The event of a sparse search. -/
def sparseEvents (s : Store) (text : String) (result : Except Error QueryResult) : List Event :=
  if (s.params.analyzer.queryTerms text).isEmpty then [.nothingToSearch text]
  else match result with
    | .ok r => [.sparseAnswered text r.size]
    | .error _ => []

/-- The events of the searches that a query starts. -/
def searchEvents (s : Store) (q : Query) (c : Connection) : List Event :=
  let dense (embedding : List Single) := s.denseQuery embedding q.topK q.filterList c
  let sparse (text : String) := s.sparseQuery text q.effectiveSparseTopK q.filterList c
  match q.mode, q.embedding, q.text with
  | .dense, some embedding, _ => denseEvents (dense embedding)
  | .sparse, _, some text => s.sparseEvents text (sparse text)
  | .hybrid, some embedding, some text =>
    match dense embedding with
    | .ok r => .denseAnswered r.size :: s.sparseEvents text (sparse text)
    | .error _ => []
  | _, _, _ => []

/-- The events of a query. -/
def queryEvents (s : Store) (q : Query) (c : Connection) : List Event :=
  (if q.alpha.isSome then [.alphaIgnored] else []) ++
    if q.mode.usesText && !s.hybrid then [] else s.searchEvents q c

/-- The events of closing a connection. -/
def closeEvents (s : Store) (c : Connection) : List Event :=
  if c.isSome then [.closed s.names.data] else []

end Store

end HybridRetrieval
