import HybridRetrieval.Database.Basic
import HybridRetrieval.Proofs.Json.Decoding
import HybridRetrieval.Proofs.Steps
/-!
# Nodes read back from their rows

The row of an item gives the node back (`DataRow.toNode_ofItem`), its numbers reread, provided that
the documents of its metadata and of its relationships are not nested deeper than the reader enters.
-/

namespace HybridRetrieval

open Json

namespace Json.Record

variable {α : Type}

/-- Members with distinct names of fields, whose values fit, are all named. -/
theorem nameMembers_map {fields : List (String × Decoder Unit)} {depth : Nat} {seen : List String}
    {members : List (String × Document)}
    (hfields : ∀ m ∈ members, ∃ decoder, fields.lookup m.1 = some decoder ∧
      decoder depth m.2 = .ok ())
    (hdistinct : (members.map Prod.fst).Nodup) (hseen : ∀ m ∈ members, m.1 ∉ seen) :
    nameMembers fields depth seen (members.map fun m => (Text.escape m.1.toList, m.2)) =
      .ok members := by
  induction members generalizing seen with
  | nil => rfl
  | cons member members ih =>
      obtain ⟨decoder, hlookup, hfits⟩ := hfields member List.mem_cons_self
      rw [List.map_cons, List.nodup_cons] at hdistinct
      have hnew : seen.contains member.1 = false := by
        simpa using hseen member List.mem_cons_self
      have hrest := @ih (member.1 :: seen)
        (fun m hm => hfields m (List.mem_cons_of_mem _ hm)) hdistinct.2 (by
          intro m hm hmem
          rcases List.mem_cons.mp hmem with heq | hmem
          · exact hdistinct.1 (heq ▸ List.mem_map_of_mem hm)
          · exact hseen m (List.mem_cons_of_mem _ hm) hmem)
      rw [List.map_cons, nameMembers, spelled_escape]
      simp only [bind, Except.bind, hlookup, hnew, hfits, hrest]
      rfl

/-- A record is decoded from the members that its document was made of. -/
theorem decoder_record {r : Record α} {depth : Nat} {members : List (String × Document)}
    (hfields : ∀ m ∈ members, ∃ decoder, r.fields.lookup m.1 = some decoder ∧
      decoder depth m.2 = .ok ())
    (hdistinct : (members.map Prod.fst).Nodup) :
    r.decoder (depth + 1) (.record members) = r.ofMembers depth members := by
  rw [Document.record, Record.decoder, nameMembers_map hfields hdistinct (by simp)]
  rfl

section Fields

variable {β : Type} {depth : Nat} {members : List (String × Document)}

theorem ofMembers_seq {f : Record (α → β)} {x : Record α} {g : α → β} {a : α}
    (hf : f.ofMembers depth members = .ok g) (hx : x.ofMembers depth members = .ok a) :
    (f.seq x).ofMembers depth members = .ok (g a) := by
  rw [seq]
  simp only [hf, hx]
  rfl

/-- A field that is there has the value that its document is decoded to. -/
theorem ofMembers_field {name : String} {decoder : Decoder α} {absence : Absence α} {d : Document}
    {x : α} (hlookup : members.lookup name = some d) (hdecode : decoder depth d = .ok x) :
    (field name decoder absence).ofMembers depth members = .ok x := by
  simp only [field, hlookup, hdecode]

/-- A field with a value of its own has it when it is left out. -/
theorem ofMembers_defaulted {name : String} {decoder : Decoder α} {x : α}
    (hlookup : members.lookup name = none) :
    (field name decoder (.defaulted x)).ofMembers depth members = .ok x := by
  simp only [field, hlookup]

end Fields

end Json.Record

namespace RelatedNode

/-- The related node with every number as it is read back. -/
def reread (r : RelatedNode) : RelatedNode := { r with metadata := r.metadata.reread }

theorem sound_toDocument (r : RelatedNode) : r.toDocument.Sound := by
  unfold toDocument
  split
  · exact ⟨rfl, ⟨_, rfl⟩, ⟨_, rfl⟩, trivial⟩
  · exact ⟨rfl, ⟨_, rfl⟩, ⟨_, rfl⟩, ⟨_, rfl⟩, r.metadata.sound_toDocument, trivial⟩

theorem eq_empty_of_isEmpty {m : Metadata} (h : m.isEmpty = true) : m = .empty := by
  ext1
  exact List.isEmpty_iff.mp h

/-- **A related node is decoded from its document** if its nesting is within the depth. -/
theorem decoder_toDocument (r : RelatedNode) {depth : Nat} (h : r.toDocument.nesting ≤ depth) :
    decoder depth r.toDocument = .ok r.reread := by
  have hid : Decoder.string (depth - 1) (.ofString r.nodeId) = .ok r.nodeId := spelled_escape _
  have hdepth : depth - 1 + 1 = depth := by
    have : r.toDocument.nesting ≠ 0 := by
      unfold toDocument
      simp [Document.record, Document.nesting]
    omega
  rw [decoder, ← hdepth]
  unfold toDocument at h ⊢
  split at h
  · rename_i hempty
    have hsame : r.reread = ⟨r.nodeId, .empty⟩ := by
      rw [reread, eq_empty_of_isEmpty hempty, Metadata.reread_empty]
    rw [if_pos hempty, hsame, Record.decoder_record]
    · exact Record.ofMembers_seq (Record.ofMembers_seq rfl (Record.ofMembers_field rfl hid))
        (Record.ofMembers_defaulted rfl)
    · intro m hm
      obtain rfl := List.mem_singleton.mp hm
      exact ⟨_, rfl, by rw [hid]; rfl⟩
    · simp
  · rename_i hfull
    have hnesting : r.metadata.toDocument.nesting ≤ depth - 1 := by
      simp only [Document.record, Document.nesting, Document.nestingMembers, List.map_cons] at h
      omega
    have hmetadata := r.metadata.decoder_toDocument hnesting
    rw [if_neg hfull, Record.decoder_record]
    · exact Record.ofMembers_seq (Record.ofMembers_seq rfl (Record.ofMembers_field rfl hid))
        (Record.ofMembers_field rfl hmetadata)
    · intro m hm
      rcases List.mem_cons.mp hm with rfl | hm
      · exact ⟨_, rfl, by rw [hid]; rfl⟩
      · obtain rfl := List.mem_singleton.mp hm
        exact ⟨_, rfl, by rw [hmetadata]; rfl⟩
    · simp

end RelatedNode

namespace Relationships

/-- The relationships with every number as it is read back. -/
def reread (rs : Relationships) : Relationships where
  source := rs.source.map RelatedNode.reread
  previous := rs.previous.map RelatedNode.reread
  next := rs.next.map RelatedNode.reread
  parent := rs.parent.map RelatedNode.reread
  child := rs.child.map RelatedNode.reread

theorem sound_toDocument (rs : Relationships) : rs.toDocument.Sound := by
  refine ⟨rfl, ?_⟩
  generalize rs.toList = entries
  induction entries with
  | nil => trivial
  | cons entry entries ih => exact ⟨⟨_, rfl⟩, entry.2.sound_toDocument, ih⟩

/-- The entries of relationships are set one after the other. -/
theorem decodeMembers_map (entries : List (Relationship × RelatedNode)) (rs : Relationships)
    {depth : Nat} (h : ∀ entry ∈ entries, entry.2.toDocument.nesting ≤ depth) :
    decodeMembers depth rs
        (entries.map fun entry => (Text.escape entry.1.name.toList, entry.2.toDocument)) =
      .ok (entries.foldl (fun rs entry => rs.set entry.1 entry.2.reread) rs) := by
  induction entries generalizing rs with
  | nil => rfl
  | cons entry entries ih =>
      have hname : Decoder.variantOf Relationship.variants entry.1.name = .ok entry.1 := by
        cases entry.1 <;> rfl
      have hnode := entry.2.decoder_toDocument (h entry List.mem_cons_self)
      have hrest := ih (rs.set entry.1 entry.2.reread)
        fun other hother => h other (List.mem_cons_of_mem _ hother)
      rw [List.map_cons, decodeMembers, spelled_escape]
      simp only [bind, Except.bind, hname, hnode]
      rw [hrest, List.foldl_cons]

/-- Set one after the other, the entries make up the relationships again. -/
theorem foldl_toList (rs : Relationships) :
    rs.toList.foldl (fun rs entry => rs.set entry.1 entry.2.reread) {} = rs.reread := by
  obtain ⟨source, previous, next, parent, child⟩ := rs
  cases source <;> cases previous <;> cases next <;> cases parent <;> cases child <;> rfl

theorem nesting_lt_of_mem {rs : Relationships} {entry : Relationship × RelatedNode}
    (h : entry ∈ rs.toList) : entry.2.toDocument.nesting < rs.toDocument.nesting := by
  rw [toDocument, Document.record, Document.nesting, Nat.lt_succ_iff]
  revert h
  generalize rs.toList = entries
  intro h
  induction entries with
  | nil => cases h
  | cons other entries ih =>
      simp only [List.map_cons, Document.nestingMembers]
      rcases List.mem_cons.mp h with rfl | h
      · exact Nat.le_max_left _ _
      · exact (ih h).trans (Nat.le_max_right _ _)

/-- **Relationships are decoded from their document** if its nesting is within the depth. -/
theorem decoder_toDocument (rs : Relationships) {depth : Nat} (h : rs.toDocument.nesting ≤ depth) :
    decoder depth rs.toDocument = .ok rs.reread := by
  have hpositive : rs.toDocument.nesting ≠ 0 := by
    rw [toDocument, Document.record, Document.nesting]
    exact Nat.succ_ne_zero _
  obtain ⟨rest, rfl⟩ := Nat.exists_eq_add_one_of_ne_zero (show depth ≠ 0 by omega)
  have hnodes : ∀ entry ∈ rs.toList, entry.2.toDocument.nesting ≤ rest := by
    intro entry hentry
    have hless := nesting_lt_of_mem hentry
    omega
  have hentries := decodeMembers_map rs.toList {} hnodes
  rw [foldl_toList] at hentries
  rw [toDocument, Document.record, List.map_map, decoder]
  simp only [Function.comp_def, hentries]
  rfl

end Relationships

/-- Metadata and relationships are nested no deeper than the reader enters. -/
structure Node.WithinDepth (n : Node) : Prop where
  metadata : n.metadata.toDocument.nesting ≤ maxDepth
  relationships : n.relationships.toDocument.nesting ≤ maxDepth

/-- The node with every number as it is read back. -/
def Node.reread (n : Node) : Node :=
  { n with metadata := n.metadata.reread, relationships := n.relationships.reread }

/-- Every floating-point number in the metadata of the node and of its related nodes is read back as
itself. -/
structure Node.Survives (n : Node) : Prop where
  metadata : n.metadata.Survives
  related : ∀ r node, n.relationships.get? r = some node → node.metadata.Survives

/-- A node whose numbers survive is read back as it was. -/
theorem Node.reread_of_survives {n : Node} (h : n.Survives) : n.reread = n := by
  have hrelated : ∀ r,
      (n.relationships.get? r).map RelatedNode.reread = n.relationships.get? r := by
    intro r
    cases hnode : n.relationships.get? r with
    | none => rfl
    | some node =>
        have hmetadata := Metadata.reread_of_survives (h.related r node hnode)
        rw [Option.map_some, RelatedNode.reread, hmetadata]
  have hrelationships : n.relationships.reread = n.relationships :=
    Relationships.ext (hrelated .source) (hrelated .previous) (hrelated .next) (hrelated .parent)
      (hrelated .child)
  rw [Node.reread, Metadata.reread_of_survives h.metadata, hrelationships]

/-- The text of a sound document is decoded like the document. -/
theorem Json.decodeText_render {α : Type} (decoder : Decoder α) {d : Document} (h : d.Sound) :
    decodeText decoder d.render = decoder maxDepth d := by
  rw [decodeText, Document.read_render h]
  dsimp only
  cases decoder maxDepth d with
  | error fault => rfl
  | ok x => rfl

/-- A cell with the text of a sound document is decoded exactly if the document is. -/
theorem DataRow.decodeCell_text_iff {α : Type} {decoder : Decoder α} {d : Document} (h : d.Sound)
    {x : α} : decodeCell decoder (.text d.text) = .ok x ↔ decoder maxDepth d = .ok x := by
  have htext : d.text.toList = d.render := by simp [Document.text]
  rw [decodeCell]
  simp only [Cell.text?, htext, decodeText_render decoder h]
  exact mapError_eq_ok_iff

/-- **A node is read back from the row of its item.** -/
theorem DataRow.toNode_ofItem {item : Item} (h : item.node.WithinDepth) :
    (DataRow.ofItem item).toNode = .ok item.node.reread := by
  have hfirst := (decodeCell_text_iff item.node.metadata.sound_toDocument).mpr
    (item.node.metadata.decoder_toDocument h.metadata)
  have hsecond := (decodeCell_text_iff item.node.relationships.sound_toDocument).mpr
    (item.node.relationships.decoder_toDocument h.relationships)
  rw [toNode, ofItem]
  simp only [Metadata.text, Relationships.text, hfirst, hsecond]
  rfl

/-- Items with the same row have the same documents. -/
theorem Node.WithinDepth.of_row {item other : Item} (h : other.node.WithinDepth)
    (hrow : DataRow.ofItem item = DataRow.ofItem other) : item.node.WithinDepth := by
  have hmetadata : item.node.metadata.toDocument = other.node.metadata.toDocument :=
    Document.eq_of_render_eq item.node.metadata.sound_toDocument
      other.node.metadata.sound_toDocument
      (String.ofList_injective (Cell.text.inj (congrArg DataRow.metadata hrow)))
  have hrelationships : item.node.relationships.toDocument = other.node.relationships.toDocument :=
    Document.eq_of_render_eq item.node.relationships.sound_toDocument
      other.node.relationships.sound_toDocument
      (String.ofList_injective (Cell.text.inj (congrArg DataRow.relationships hrow)))
  exact ⟨hmetadata ▸ h.metadata, hrelationships ▸ h.relationships⟩

end HybridRetrieval
