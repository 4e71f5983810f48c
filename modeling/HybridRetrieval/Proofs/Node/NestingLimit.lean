import HybridRetrieval.Proofs.Node.ReadBack
/-!
# What is nested too deep

Writing has no limit of nesting, but reading has one.  Whatever a decoder takes is nested within the
depth that it is given (`Decoder.nesting_le_of_any`, and likewise for metadata, related nodes and
relationships), so a node is read back from its row exactly if its documents are within the limit
(`DataRow.toNode_ofItem_iff`).
-/

namespace HybridRetrieval

open Json

namespace Json.Decoder

mutual

/-- **A value that is decoded** is nested within the depth. -/
theorem nesting_le_of_any : (d : Document) → {depth : Nat} → {x : Json} →
    any depth d = .ok x → d.nesting ≤ depth
  | .null, _, _, _ | .bool _, _, _, _ | .number _, _, _, _ | .string _, _, _, _ | .absent, _, _, _
  | .badString _ _, _, _, _ | .badValue _ _, _, _, _ => by simp [Document.nesting]
  | .array docs ending, depth, x, h => by
      rw [any] at h
      split at h
      · cases h
      · obtain ⟨values, hitems, -⟩ := bind_eq_ok_iff.mp h
        have hnesting := nestingItems_le_of_anyItems docs hitems
        rw [Document.nesting]
        omega
  | .object docs ending, depth, x, h => by
      rw [any] at h
      split at h
      · cases h
      · obtain ⟨members, hmembers, -⟩ := bind_eq_ok_iff.mp h
        have hnesting := nestingMembers_le_of_anyMembers docs hmembers
        rw [Document.nesting]
        omega

/-- Items that are decoded are nested within the depth. -/
theorem nestingItems_le_of_anyItems : (docs : List Document) → {depth : Nat} → {xs : List Json} →
    anyItems depth docs = .ok xs → Document.nestingItems docs ≤ depth
  | [], _, _, _ => Nat.zero_le _
  | item :: rest, depth, xs, h => by
      obtain ⟨value, hitem, h⟩ := bind_eq_ok_iff.mp h
      obtain ⟨values, hrest, -⟩ := bind_eq_ok_iff.mp h
      exact Nat.max_le.mpr ⟨nesting_le_of_any item hitem, nestingItems_le_of_anyItems rest hrest⟩

/-- Members that are decoded are nested within the depth. -/
theorem nestingMembers_le_of_anyMembers : (docs : List (List Char × Document)) → {depth : Nat} →
    {xs : List (String × Json)} → anyMembers depth docs = .ok xs →
      Document.nestingMembers docs ≤ depth
  | [], _, _, _ => Nat.zero_le _
  | (_, item) :: rest, depth, xs, h => by
      obtain ⟨name, -, h⟩ := bind_eq_ok_iff.mp h
      obtain ⟨value, hitem, h⟩ := bind_eq_ok_iff.mp h
      obtain ⟨members, hrest, -⟩ := bind_eq_ok_iff.mp h
      exact Nat.max_le.mpr ⟨nesting_le_of_any item hitem,
        nestingMembers_le_of_anyMembers rest hrest⟩

end

end Json.Decoder

/-- Metadata that is decoded is nested within the depth. -/
theorem Metadata.nesting_le_of_decoder {depth : Nat} {d : Document} {m : Metadata}
    (h : decoder depth d = .ok m) : d.nesting ≤ depth := by
  unfold decoder at h
  split at h
  · cases h
  · obtain ⟨members, hmembers, -⟩ := bind_eq_ok_iff.mp h
    rw [Document.nesting]
    exact Nat.succ_le_succ (Decoder.nestingMembers_le_of_anyMembers _ hmembers)
  · cases h

/-- The values of all members that a record knows have been decoded. -/
theorem Json.Record.decoded_of_nameMembers {fields : List (String × Decoder Unit)} {depth : Nat}
    {docs : List (List Char × Document)} {seen : List String} {members : List (String × Document)}
    (h : nameMembers fields depth seen docs = .ok members) (doc : List Char × Document)
    (hdoc : doc ∈ docs) {key : String} (hkey : Decoder.spelled doc.1 = .ok key)
    {decoder : Decoder Unit} (hfield : fields.lookup key = some decoder) :
    decoder depth doc.2 = .ok () := by
  induction docs generalizing seen members with
  | nil => cases hdoc
  | cons first rest ih =>
      obtain ⟨name, hname, h⟩ := bind_eq_ok_iff.mp h
      rcases List.mem_cons.mp hdoc with rfl | hrest
      · obtain rfl : name = key := Except.ok.inj (hname.symm.trans hkey)
        rw [hfield] at h
        dsimp only at h
        split at h
        · cases h
        · obtain ⟨_, hvalue, -⟩ := bind_eq_ok_iff.mp h
          exact hvalue
      · split at h
        · obtain ⟨_, -, h⟩ := bind_eq_ok_iff.mp h
          exact ih h hrest
        · split at h
          · cases h
          · obtain ⟨_, -, h⟩ := bind_eq_ok_iff.mp h
            obtain ⟨_, hmore, -⟩ := bind_eq_ok_iff.mp h
            exact ih hmore hrest

/-- A related node that is decoded from its document is nested within the depth. -/
theorem RelatedNode.nesting_le_of_decoder (r : RelatedNode) {depth : Nat} {x : RelatedNode}
    (h : decoder depth r.toDocument = .ok x) : r.toDocument.nesting ≤ depth := by
  unfold toDocument at h ⊢
  cases depth with
  | zero => cases h
  | succ depth =>
      obtain ⟨members, hmembers, -⟩ := bind_eq_ok_iff.mp h
      split at hmembers
      · rename_i hempty
        rw [if_pos hempty]
        simp [Document.record, Document.nesting, Document.nestingMembers, Document.ofString]
      · rename_i hfull
        have hdecoded := Record.decoded_of_nameMembers hmembers
          (Text.escape "metadata".toList, r.metadata.toDocument) (by simp)
          (spelled_escape "metadata") rfl
        cases hmetadata : Metadata.decoder depth r.metadata.toDocument with
        | error e =>
            rw [hmetadata] at hdecoded
            cases hdecoded
        | ok m =>
            have hnesting := Metadata.nesting_le_of_decoder hmetadata
            rw [if_neg hfull]
            simpa [Document.record, Document.nesting, Document.nestingMembers, Document.ofString]
              using hnesting

namespace Relationships

/-- The entries of relationships are decoded one after the other. -/
theorem nesting_le_of_decodeMembers {entries : List (Relationship × RelatedNode)}
    {rs x : Relationships} {depth : Nat}
    (h : decodeMembers depth rs
      (entries.map fun entry => (Text.escape entry.1.name.toList, entry.2.toDocument)) = .ok x) :
    Document.nestingMembers
      (entries.map fun entry => (Text.escape entry.1.name.toList, entry.2.toDocument)) ≤ depth := by
  induction entries generalizing rs with
  | nil => exact Nat.zero_le _
  | cons entry rest ih =>
      obtain ⟨name, -, h⟩ := bind_eq_ok_iff.mp h
      obtain ⟨r, -, h⟩ := bind_eq_ok_iff.mp h
      obtain ⟨node, hnode, h⟩ := bind_eq_ok_iff.mp h
      exact Nat.max_le.mpr ⟨entry.2.nesting_le_of_decoder hnode, ih h⟩

/-- Relationships that are decoded from their document are nested within the depth. -/
theorem nesting_le_of_decoder (rs : Relationships) {depth : Nat} {x : Relationships}
    (h : decoder depth rs.toDocument = .ok x) : rs.toDocument.nesting ≤ depth := by
  rw [toDocument, Document.record, List.map_map] at h ⊢
  cases depth with
  | zero => cases h
  | succ depth =>
      obtain ⟨all, hall, -⟩ := bind_eq_ok_iff.mp h
      rw [Document.nesting]
      exact Nat.succ_le_succ (nesting_le_of_decodeMembers hall)

end Relationships

namespace DataRow

/-- **A node is read back from the row of its item exactly if it is within the limit.** -/
theorem toNode_ofItem_iff {item : Item} :
    (∃ node, (DataRow.ofItem item).toNode = .ok node) ↔ item.node.WithinDepth := by
  constructor
  · rintro ⟨node, h⟩
    obtain ⟨metadata, hmetadata, h⟩ := bind_eq_ok_iff.mp h
    obtain ⟨relationships, hrelationships, -⟩ := bind_eq_ok_iff.mp h
    exact ⟨Metadata.nesting_le_of_decoder
        ((decodeCell_text_iff item.node.metadata.sound_toDocument).mp hmetadata),
      item.node.relationships.nesting_le_of_decoder
        ((decodeCell_text_iff item.node.relationships.sound_toDocument).mp hrelationships)⟩
  · intro h
    exact ⟨_, toNode_ofItem h⟩

end DataRow

end HybridRetrieval
