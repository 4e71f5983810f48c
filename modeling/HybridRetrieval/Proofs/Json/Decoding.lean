import HybridRetrieval.Json.Metadata
import HybridRetrieval.Proofs.Json.NumberReadBack
import HybridRetrieval.Proofs.Json.ReadBack
/-!
# Values decoded from their documents

A value is decoded from its document as long as arrays and objects are not nested deeper than the
decoder enters (`Json.any_ofJson`).  What comes back is the value with its numbers reread
(`Json.reread`): all else, the order of the members included, is as it was.  So a value comes back
as it was if its floating-point numbers do (`Json.reread_of_survives`).
-/

namespace HybridRetrieval

namespace Json

namespace Document

mutual

/-- How many arrays and objects of the document stand inside each other. -/
def nesting : Document → Nat
  | array items _ => nestingItems items + 1
  | object members _ => nestingMembers members + 1
  | _ => 0

/-- The nesting of the items. -/
def nestingItems : List Document → Nat
  | [] => 0
  | item :: rest => max item.nesting (nestingItems rest)

/-- The nesting of the values of the members. -/
def nestingMembers : List (List Char × Document) → Nat
  | [] => 0
  | (_, value) :: rest => max value.nesting (nestingMembers rest)

end

mutual

/-- The document of a value is sound. -/
theorem sound_ofJson : (value : Json) → (ofJson value).Sound
  | .null | .bool _ => trivial
  | .number n => ⟨n.spelling, n.sound_spelling, n.text_spelling.symm⟩
  | .string s => ⟨s.toList, rfl⟩
  | .array items => ⟨rfl, sound_ofItems items⟩
  | .object members => ⟨rfl, sound_ofMembers members⟩

theorem sound_ofItems : (items : List Json) → SoundItems (ofItems items)
  | [] => trivial
  | item :: rest => ⟨sound_ofJson item, sound_ofItems rest⟩

theorem sound_ofMembers : (members : List (String × Json)) → SoundMembers (ofMembers members)
  | [] => trivial
  | (key, value) :: rest => ⟨⟨key.toList, rfl⟩, sound_ofJson value, sound_ofMembers rest⟩

end

end Document

mutual

/-- The value with every number as it is read back. -/
def reread : Json → Json
  | number n => number n.reread
  | array items => array (rereadItems items)
  | object members => object (rereadMembers members)
  | value => value

/-- The items with every number as it is read back. -/
def rereadItems : List Json → List Json
  | [] => []
  | item :: rest => reread item :: rereadItems rest

/-- The members with every number as it is read back. -/
def rereadMembers : List (String × Json) → List (String × Json)
  | [] => []
  | (key, value) :: rest => (key, reread value) :: rereadMembers rest

end

/-! ## Numbers that survive -/

/-- The number is read back as itself, unless it is an integer: these always are. -/
def Number.Survives : Number → Prop
  | .integer _ _ => True
  | .real value finite => (Number.real value finite).reread = .real value finite

theorem Number.reread_of_survives {n : Number} (h : n.Survives) : n.reread = n := by
  cases n with
  | integer value hrange => exact reread_integer value hrange
  | real value hfinite => exact h

mutual

/-- Every floating-point number of the value is read back as itself. -/
def Survives : Json → Prop
  | number n => n.Survives
  | array items => SurviveItems items
  | object members => SurviveMembers members
  | null | bool _ | string _ => True

/-- Every floating-point number of the items is read back as itself. -/
def SurviveItems : List Json → Prop
  | [] => True
  | item :: rest => item.Survives ∧ SurviveItems rest

/-- Every floating-point number of the members is read back as itself. -/
def SurviveMembers : List (String × Json) → Prop
  | [] => True
  | (_, value) :: rest => value.Survives ∧ SurviveMembers rest

end

mutual

/-- A value whose floating-point numbers survive is read back as it was. -/
theorem reread_of_survives : (value : Json) → value.Survives → value.reread = value
  | .null, _ | .bool _, _ | .string _, _ => by simp [reread]
  | .number n, h => by
      rw [Survives] at h
      rw [reread, Number.reread_of_survives h]
  | .array items, h => by
      rw [Survives] at h
      rw [reread, rereadItems_of_survive items h]
  | .object members, h => by
      rw [Survives] at h
      rw [reread, rereadMembers_of_survive members h]

theorem rereadItems_of_survive : (items : List Json) → SurviveItems items →
    rereadItems items = items
  | [], _ => rfl
  | item :: rest, h => by
      rw [rereadItems, reread_of_survives item h.1, rereadItems_of_survive rest h.2]

theorem rereadMembers_of_survive : (members : List (String × Json)) → SurviveMembers members →
    rereadMembers members = members
  | [], _ => rfl
  | (_, value) :: rest, h => by
      rw [rereadMembers, reread_of_survives value h.1, rereadMembers_of_survive rest h.2]

end

/-! ## Decoding -/

/-- A key or a string is decoded from its spelling. -/
theorem spelled_escape (s : String) : Decoder.spelled (Text.escape s.toList) = .ok s := by
  rw [Decoder.spelled, Text.unescape?_escape]
  simp

mutual

/-- **A value is decoded from its document** if its nesting is within the depth. -/
theorem any_ofJson : (value : Json) → (depth : Nat) → (Document.ofJson value).nesting ≤ depth →
    Decoder.any depth (.ofJson value) = .ok value.reread
  | .null, _, _ => by simp [Document.ofJson, Decoder.any, reread]
  | .bool b, _, _ => by simp [Document.ofJson, Decoder.any, reread]
  | .number n, _, _ => by simp [Document.ofJson, Decoder.any, reread, n.ofText?_text]
  | .string s, _, _ => by
      rw [Document.ofJson, Decoder.any, spelled_escape]
      simp [reread]
  | .array items, depth, h => by
      rw [Document.ofJson, Document.nesting] at h
      have hitems := anyItems_ofItems items (depth - 1) (by omega)
      rw [Document.ofJson, Decoder.any, if_neg (by omega), hitems, reread]
      rfl
  | .object members, depth, h => by
      rw [Document.ofJson, Document.nesting] at h
      have hmembers := anyMembers_ofMembers members (depth - 1) (by omega)
      rw [Document.ofJson, Decoder.any, if_neg (by omega), hmembers, reread]
      rfl

/-- Items are decoded one by one. -/
theorem anyItems_ofItems : (items : List Json) → (depth : Nat) →
    Document.nestingItems (Document.ofItems items) ≤ depth →
    Decoder.anyItems depth (Document.ofItems items) = .ok (rereadItems items)
  | [], _, _ => by simp [Document.ofItems, Decoder.anyItems, rereadItems]
  | item :: rest, depth, h => by
      rw [Document.ofItems, Document.nestingItems] at h
      have hitem := any_ofJson item depth (by omega)
      have hrest := anyItems_ofItems rest depth (by omega)
      rw [Document.ofItems, Decoder.anyItems, hitem, hrest, rereadItems]
      rfl

/-- Members are decoded one by one. -/
theorem anyMembers_ofMembers : (members : List (String × Json)) → (depth : Nat) →
    Document.nestingMembers (Document.ofMembers members) ≤ depth →
    Decoder.anyMembers depth (Document.ofMembers members) = .ok (rereadMembers members)
  | [], _, _ => by simp [Document.ofMembers, Decoder.anyMembers, rereadMembers]
  | (key, value) :: rest, depth, h => by
      rw [Document.ofMembers, Document.nestingMembers] at h
      have hvalue := any_ofJson value depth (by omega)
      have hrest := anyMembers_ofMembers rest depth (by omega)
      rw [Document.ofMembers, Decoder.anyMembers, spelled_escape, rereadMembers]
      simp only [bind, Except.bind, hvalue, hrest]
      rfl

end

/-! ## The order of members -/

/-- Rereading keeps the keys. -/
theorem keys_reread (members : List (String × Json)) :
    (rereadMembers members).map Prod.fst = members.map Prod.fst := by
  induction members with
  | nil => rfl
  | cons member rest ih => simp [rereadMembers, ih]

theorem pairwise_reread {members : List (String × Json)} (h : members.Pairwise (·.1 < ·.1)) :
    (rereadMembers members).Pairwise (·.1 < ·.1) := by
  have hkeys : (members.map Prod.fst).Pairwise (· < ·) := List.pairwise_map.mpr h
  rw [← keys_reread] at hkeys
  exact List.pairwise_map.mp hkeys

mutual

/-- Rereading keeps every object in order. -/
theorem ordered_reread : (value : Json) → value.Ordered → value.reread.Ordered
  | .null, h | .bool _, h | .string _, h => by simpa [reread] using h
  | .number _, _ => by simp [reread, Ordered]
  | .array items, h => by
      rw [Ordered] at h
      rw [reread, Ordered]
      exact orderedItems_reread items h
  | .object members, h => by
      rw [Ordered] at h
      rw [reread, Ordered]
      exact ⟨pairwise_reread h.1, orderedMembers_reread members h.2⟩

theorem orderedItems_reread : (items : List Json) → OrderedItems items →
    OrderedItems (rereadItems items)
  | [], _ => trivial
  | item :: rest, h => ⟨ordered_reread item h.1, orderedItems_reread rest h.2⟩

theorem orderedMembers_reread : (members : List (String × Json)) → OrderedMembers members →
    OrderedMembers (rereadMembers members)
  | [], _ => trivial
  | (_, value) :: rest, h => ⟨ordered_reread value h.1, orderedMembers_reread rest h.2⟩

end

/-- A member before all others is added in front. -/
theorem addMember_of_lt {key : String} {value : Json} {members : List (String × Json)}
    (h : ∀ member ∈ members, key < member.1) :
    addMember key value members = (key, value) :: members := by
  have hfree : members.any (·.1 == key) = false := by
    rw [List.any_eq_false]
    intro member hmember heq
    have hless := h member hmember
    rw [beq_iff_eq.mp heq] at hless
    exact String.lt_irrefl _ hless
  rw [addMember, hfree, if_neg Bool.false_ne_true]
  cases members with
  | nil => rfl
  | cons member rest => rw [insertMember, if_pos (h member List.mem_cons_self)]

mutual

/-- What is in order is left as it is. -/
theorem normalize_of_ordered : (value : Json) → value.Ordered → value.normalize = value
  | .null, _ | .bool _, _ | .number _, _ | .string _, _ => by simp [normalize]
  | .array items, h => by
      rw [Ordered] at h
      rw [normalize, normalizeItems_of_ordered items h]
  | .object members, h => by
      rw [Ordered] at h
      rw [normalize, normalizeMembers_of_ordered members h.1 h.2]

theorem normalizeItems_of_ordered : (items : List Json) → OrderedItems items →
    normalizeItems items = items
  | [], _ => rfl
  | item :: rest, h => by
      rw [normalizeItems, normalize_of_ordered item h.1, normalizeItems_of_ordered rest h.2]

theorem normalizeMembers_of_ordered : (members : List (String × Json)) →
    members.Pairwise (·.1 < ·.1) → OrderedMembers members → normalizeMembers members = members
  | [], _, _ => rfl
  | (key, value) :: rest, hkeys, h => by
      obtain ⟨hfirst, hrest⟩ := List.pairwise_cons.mp hkeys
      rw [normalizeMembers, normalize_of_ordered value h.1,
        normalizeMembers_of_ordered rest hrest h.2, addMember_of_lt hfirst]

end

end Json

/-! ## Metadata -/

namespace Metadata

open Json

/-- The metadata with every number as it is read back. -/
def reread (m : Metadata) : Metadata :=
  ⟨rereadMembers m.members, by
    have h := ordered_reread (.object m.members) m.ordered
    rwa [Json.reread] at h⟩

@[simp]
theorem reread_empty : empty.reread = empty := by
  ext1
  simp [reread, empty, rereadMembers]

/-- Every floating-point number of the metadata is read back as itself. -/
def Survives (m : Metadata) : Prop := SurviveMembers m.members

theorem reread_of_survives {m : Metadata} (h : m.Survives) : m.reread = m := by
  ext1
  exact rereadMembers_of_survive m.members h

theorem sound_toDocument (m : Metadata) : m.toDocument.Sound := Document.sound_ofJson _

/-- **Metadata is decoded from its document** if its nesting is within the depth. -/
theorem decoder_toDocument (m : Metadata) {depth : Nat} (h : m.toDocument.nesting ≤ depth) :
    decoder depth m.toDocument = .ok m.reread := by
  rw [toDocument, Document.ofJson] at h ⊢
  rw [Document.nesting] at h
  obtain ⟨rest, rfl⟩ := Nat.exists_eq_add_one_of_ne_zero (show depth ≠ 0 by omega)
  have hmembers := anyMembers_ofMembers m.members rest (by omega)
  have hsame : ofMembers (rereadMembers m.members) = m.reread := by
    have hordered := m.reread.ordered
    rw [Ordered] at hordered
    ext1
    exact normalizeMembers_of_ordered _ hordered.1 hordered.2
  rw [decoder, hmembers]
  simp only [bind, Except.bind, Ending.check]
  rw [hsame]
  rfl

end Metadata

end HybridRetrieval
