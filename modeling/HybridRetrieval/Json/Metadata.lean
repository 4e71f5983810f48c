import HybridRetrieval.Json.Decoder
/-!
# Metadata

Metadata is a JSON object whose members, at every depth, stand in ascending order of their keys.
-/

namespace HybridRetrieval

open Json

/-- A JSON object in order at every depth. -/
structure Metadata where
  members : List (String × Json)
  ordered : Json.Ordered (.object members)

namespace Metadata

/-- Metadata without entries. -/
def empty : Metadata := ⟨[], by simp [Json.Ordered, Json.OrderedMembers]⟩

instance : Inhabited Metadata := ⟨empty⟩

@[ext]
theorem ext {a b : Metadata} (h : a.members = b.members) : a = b := by
  cases a; cases b; cases h; rfl

/-- The members in order, the last of several with one key kept. -/
def ofMembers (members : List (String × Json)) : Metadata :=
  ⟨normalizeMembers members, by
    simpa [Json.Ordered] using
      And.intro (pairwise_normalizeMembers members) (orderedMembers_normalizeMembers members)⟩

/-- Sets an entry. -/
def insert (m : Metadata) (key : String) (value : Json) : Metadata :=
  ⟨insertMember key value.normalize m.members, by
    have h := m.ordered
    simp only [Json.Ordered] at h ⊢
    exact ⟨pairwise_insertMember h.1,
      orderedMembers_insertMember (ordered_normalize value) h.2⟩⟩

/-- The value of an entry. -/
def get? (m : Metadata) (key : String) : Option Json := m.members.lookup key

def isEmpty (m : Metadata) : Bool := m.members.isEmpty

/-- The metadata as a document. -/
def toDocument (m : Metadata) : Document := .ofJson (.object m.members)

/-- The text that is stored. -/
def text (m : Metadata) : String := m.toDocument.text

/-- Reads an object. -/
def decoder : Decoder Metadata := fun depth d =>
  match depth, d with
  | 0, .object _ _ => .error .malformed
  | depth + 1, .object docs ending => do
    let members ← Decoder.anyMembers depth docs
    ending.check
    return ofMembers members
  | _, d => .error d.refuse

end Metadata

end HybridRetrieval
