import HybridRetrieval.Error
import HybridRetrieval.Json.Metadata
import HybridRetrieval.Text.LowerCase
/-!
# Nodes

A node is a text with an identifier, metadata and relationships to other nodes.  Its source names
the document it was taken from.  An item is a node with its embedding; a record is the flat form in
which items are imported, and is its own source unless it names another one.
-/

namespace HybridRetrieval

open Json

/-- How a node relates to another. -/
inductive Relationship where
  | source
  | previous
  | next
  | parent
  | child
deriving DecidableEq, Repr

namespace Relationship

/-- The name of a relationship in files. -/
def name : Relationship → String
  | source => "source"
  | previous => "previous"
  | next => "next"
  | parent => "parent"
  | child => "child"

/-- All relationships in their order. -/
def all : List Relationship := [source, previous, next, parent, child]

/-- The relationship that a name in any case means. -/
def ofName (s : String) : Except Error Relationship :=
  match [("source", source), ("ref_doc", source), ("document", source), ("previous", previous),
      ("prev", previous), ("next", next), ("parent", parent), ("child", child)].lookup
      (lowerCaseString s) with
  | some r => .ok r
  | none => .error (.unknownRelationship s)

/-- The names that stand for relationships in JSON. -/
def variants : List (String × Relationship) := all.map fun r => (r.name, r)

end Relationship

/-- The far end of a relationship. -/
@[ext]
structure RelatedNode where
  nodeId : String
  metadata : Metadata := .empty

namespace RelatedNode

/-- Metadata is written only if there is any. -/
def toDocument (r : RelatedNode) : Document :=
  .record (("node_id", .ofString r.nodeId) ::
    if r.metadata.isEmpty then [] else [("metadata", r.metadata.toDocument)])

def decoder : Decoder RelatedNode :=
  (Record.pure RelatedNode.mk
    |>.required "node_id" Decoder.string
    |>.defaulted "metadata" Metadata.decoder .empty).decoder

end RelatedNode

/-- At most one related node for each relationship. -/
@[ext]
structure Relationships where
  source : Option RelatedNode := none
  previous : Option RelatedNode := none
  next : Option RelatedNode := none
  parent : Option RelatedNode := none
  child : Option RelatedNode := none

namespace Relationships

def get? (rs : Relationships) : Relationship → Option RelatedNode
  | .source => rs.source
  | .previous => rs.previous
  | .next => rs.next
  | .parent => rs.parent
  | .child => rs.child

/-- Sets one relationship. -/
def set (rs : Relationships) (r : Relationship) (node : RelatedNode) : Relationships :=
  match r with
  | .source => { rs with source := some node }
  | .previous => { rs with previous := some node }
  | .next => { rs with next := some node }
  | .parent => { rs with parent := some node }
  | .child => { rs with child := some node }

/-- The relationships in their order. -/
def toList (rs : Relationships) : List (Relationship × RelatedNode) :=
  Relationship.all.filterMap fun r => (rs.get? r).map (r, ·)

def toDocument (rs : Relationships) : Document :=
  .record (rs.toList.map fun entry => (entry.1.name, entry.2.toDocument))

/-- The text that is stored. -/
def text (rs : Relationships) : String := rs.toDocument.text

/-- Reads members one after the other, the last of equal names winning. -/
def decodeMembers (depth : Nat) (rs : Relationships) :
    List (List Char × Document) → Except Fault Relationships
  | [] => .ok rs
  | (key, value) :: rest => do
    let r ← Decoder.variantOf Relationship.variants (← Decoder.spelled key)
    let node ← RelatedNode.decoder depth value
    decodeMembers depth (rs.set r node) rest

def decoder : Decoder Relationships := fun depth d =>
  match depth, d with
  | 0, .object _ _ => .error .malformed
  | depth + 1, .object members ending => do
    let rs ← decodeMembers depth {} members
    ending.check
    return rs
  | _, d => .error d.refuse

end Relationships

/-- A text with an identifier, metadata and relationships. -/
@[ext]
structure Node where
  id : String
  text : String
  metadata : Metadata := .empty
  relationships : Relationships := {}

namespace Node

/-- The document the node was taken from. -/
def refDocId (n : Node) : Option String := n.relationships.source.map (·.nodeId)

/-- Sets one relationship. -/
def withRelationship (n : Node) (r : Relationship) (node : RelatedNode) : Node :=
  { n with relationships := n.relationships.set r node }

/-- Sets the source. -/
def withSource (n : Node) (docId : String) : Node := n.withRelationship .source { nodeId := docId }

/-- Sets a metadata entry. -/
def withMetadata (n : Node) (key : String) (value : Json) : Node :=
  { n with metadata := n.metadata.insert key value }

def toDocument (n : Node) : Document :=
  .record [("id", .ofString n.id), ("text", .ofString n.text),
    ("metadata", n.metadata.toDocument), ("relationships", n.relationships.toDocument)]

def decoder : Decoder Node :=
  (Record.pure Node.mk
    |>.required "id" Decoder.string
    |>.required "text" Decoder.string
    |>.defaulted "metadata" Metadata.decoder .empty
    |>.defaulted "relationships" Relationships.decoder {}).decoder

end Node

/-- A node with its embedding. -/
@[ext]
structure Item where
  node : Node
  embedding : List Single

namespace Item

def id (item : Item) : String := item.node.id

def decoder : Decoder Item :=
  (Record.pure Item.mk
    |>.required "node" Node.decoder
    |>.required "embedding" (Decoder.list Decoder.single)).decoder

end Item

/-- The flat form of an item, one line of an import file. -/
structure ImportRecord where
  id : String
  text : String
  embedding : List Single
  metadata : Metadata := .empty
  refDocId : Option String := none

namespace ImportRecord

/-- The item of a record: its source is the named document, or else the record itself. -/
def toItem (r : ImportRecord) : Item :=
  let node : Node := { id := r.id, text := r.text, metadata := r.metadata }
  ⟨node.withSource (r.refDocId.getD r.id), r.embedding⟩

def decoder : Decoder ImportRecord :=
  (Record.pure ImportRecord.mk
    |>.required "id" Decoder.string
    |>.required "text" Decoder.string
    |>.required "embedding" (Decoder.list Decoder.single)
    |>.defaulted "metadata" Metadata.decoder .empty
    |>.defaulted "ref_doc_id" Decoder.string.option none).decoder

end ImportRecord

end HybridRetrieval
