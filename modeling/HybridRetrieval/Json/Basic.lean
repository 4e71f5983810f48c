import HybridRetrieval.Number.Double
import HybridRetrieval.Number.WordSize
/-!
# JSON values

A number is an integer of at most 64 bits or a finite floating-point number.  Objects are kept in
ascending order of their keys at every depth (`Json.Ordered`), so two objects with the same members
are equal; `Json.normalize` brings any value into this form, the last of several members with one
key winning.
-/

namespace HybridRetrieval

namespace Json

/-- A JSON number. -/
inductive Number where
  | integer (value : Int) (inRange : -signedBound ≤ value ∧ value < unsignedBound)
  | real (value : Double) (finite : value.isFinite = true)
deriving DecidableEq, Repr

/-- The integer as a number, if 64 bits hold it. -/
def Number.ofInt? (value : Int) : Option Number :=
  if h : -signedBound ≤ value ∧ value < unsignedBound then some (.integer value h) else none

/-- The floating-point number as a number, if it is finite. -/
def Number.ofDouble? (value : Double) : Option Number :=
  if h : value.isFinite = true then some (.real value h) else none

/-- The nearest 32-bit number; a fraction is first read with 64 bits. -/
def Number.toSingle : Number → Single
  | .integer value _ => Single.ofInt value
  | .real value _ => value.toSingle

end Json

/-- A JSON value. -/
inductive Json where
  | null
  | bool (value : Bool)
  | number (value : Json.Number)
  | string (value : String)
  | array (items : List Json)
  | object (members : List (String × Json))
deriving Repr, Inhabited

namespace Json

/-- Adds a member in its place, replacing one with the same key. -/
def insertMember (key : String) (value : Json) : List (String × Json) → List (String × Json)
  | [] => [(key, value)]
  | member :: rest =>
    if key < member.1 then (key, value) :: member :: rest
    else if key = member.1 then (key, value) :: rest
    else member :: insertMember key value rest

/-- Adds a member in its place unless its key is taken. -/
def addMember (key : String) (value : Json) (members : List (String × Json)) :
    List (String × Json) :=
  if members.any (·.1 == key) then members else insertMember key value members

mutual

/-- The value with the members of every object in ascending order, the last of equal keys kept. -/
def normalize : Json → Json
  | array items => array (normalizeItems items)
  | object members => object (normalizeMembers members)
  | value => value

/-- Normalizes every item. -/
def normalizeItems : List Json → List Json
  | [] => []
  | item :: rest => normalize item :: normalizeItems rest

/-- Normalizes the values of the members and puts the members in order. -/
def normalizeMembers : List (String × Json) → List (String × Json)
  | [] => []
  | (key, value) :: rest => addMember key (normalize value) (normalizeMembers rest)

end

mutual

/-- Every object in the value has strictly ascending keys. -/
def Ordered : Json → Prop
  | array items => OrderedItems items
  | object members => members.Pairwise (·.1 < ·.1) ∧ OrderedMembers members
  | _ => True

/-- Every object in the items has strictly ascending keys. -/
def OrderedItems : List Json → Prop
  | [] => True
  | item :: rest => Ordered item ∧ OrderedItems rest

/-- Every object in the values of the members has strictly ascending keys. -/
def OrderedMembers : List (String × Json) → Prop
  | [] => True
  | (_, value) :: rest => Ordered value ∧ OrderedMembers rest

end

/-- Two keys that are not in order are in the opposite order or equal. -/
theorem key_trichotomy {a b : String} (hlt : ¬ a < b) (hne : a ≠ b) : b < a := by
  rcases String.le_total a b with h | h
  · exact absurd (String.le_antisymm h (String.not_lt.1 hlt)) hne
  · exact String.not_le.1 fun h' => hne (String.le_antisymm h' h)

/-- The keys after an insertion are the old ones and the new one. -/
theorem mem_insertMember {key : String} {value : Json} {members : List (String × Json)}
    {x : String × Json} (h : x ∈ insertMember key value members) :
    x = (key, value) ∨ x ∈ members := by
  induction members with
  | nil => simpa [insertMember] using h
  | cons member rest ih =>
    unfold insertMember at h
    split at h
    · simpa using h
    · split at h
      · rcases List.mem_cons.1 h with h | h
        · exact .inl h
        · exact .inr (List.mem_cons_of_mem _ h)
      · rcases List.mem_cons.1 h with h | h
        · exact .inr (h ▸ List.mem_cons_self)
        · exact (ih h).imp id (List.mem_cons_of_mem _)

/-- An insertion keeps the keys in order. -/
theorem pairwise_insertMember {key : String} {value : Json} {members : List (String × Json)}
    (h : members.Pairwise (·.1 < ·.1)) :
    (insertMember key value members).Pairwise (·.1 < ·.1) := by
  induction members with
  | nil => simp [insertMember]
  | cons member rest ih =>
    have hrest := (List.pairwise_cons.1 h).2
    have hfirst := (List.pairwise_cons.1 h).1
    unfold insertMember
    split
    · rename_i hlt
      refine List.pairwise_cons.2 ⟨fun x hx => ?_, h⟩
      rcases List.mem_cons.1 hx with rfl | hx
      · exact hlt
      · exact String.lt_trans hlt (hfirst x hx)
    · split
      · rename_i heq
        exact List.pairwise_cons.2 ⟨fun x hx => heq ▸ hfirst x hx, hrest⟩
      · rename_i hlt hne
        refine List.pairwise_cons.2 ⟨fun x hx => ?_, ih hrest⟩
        rcases mem_insertMember hx with rfl | hx
        · exact key_trichotomy hlt hne
        · exact hfirst x hx

/-- Values in order stay so when a value in order is added. -/
theorem orderedMembers_insertMember {key : String} {value : Json} {members : List (String × Json)}
    (hv : Ordered value) (h : OrderedMembers members) :
    OrderedMembers (insertMember key value members) := by
  induction members with
  | nil => exact ⟨hv, trivial⟩
  | cons member rest ih =>
    obtain ⟨k, v⟩ := member
    unfold insertMember
    split
    · exact ⟨hv, h⟩
    · split
      · exact ⟨hv, h.2⟩
      · exact ⟨h.1, ih h.2⟩

mutual

/-- A normalized value has its objects in order. -/
theorem ordered_normalize : (value : Json) → Ordered (normalize value)
  | null | bool _ | number _ | string _ => by simp [normalize, Ordered]
  | array items => by
    simpa [normalize, Ordered] using orderedItems_normalizeItems items
  | object members => by
    simpa [normalize, Ordered] using
      And.intro (pairwise_normalizeMembers members) (orderedMembers_normalizeMembers members)

/-- Normalized items have their objects in order. -/
theorem orderedItems_normalizeItems : (items : List Json) → OrderedItems (normalizeItems items)
  | [] => by simp [normalizeItems, OrderedItems]
  | item :: rest => by
    simpa [normalizeItems, OrderedItems] using
      And.intro (ordered_normalize item) (orderedItems_normalizeItems rest)

/-- Normalized members have strictly ascending keys. -/
theorem pairwise_normalizeMembers :
    (members : List (String × Json)) → (normalizeMembers members).Pairwise (·.1 < ·.1)
  | [] => by simp [normalizeMembers]
  | (key, value) :: rest => by
    unfold normalizeMembers addMember
    split
    · exact pairwise_normalizeMembers rest
    · exact pairwise_insertMember (pairwise_normalizeMembers rest)

/-- Normalized members have values in order. -/
theorem orderedMembers_normalizeMembers :
    (members : List (String × Json)) → OrderedMembers (normalizeMembers members)
  | [] => by simp [normalizeMembers, OrderedMembers]
  | (key, value) :: rest => by
    unfold normalizeMembers addMember
    split
    · exact orderedMembers_normalizeMembers rest
    · exact orderedMembers_insertMember (ordered_normalize value)
        (orderedMembers_normalizeMembers rest)

end

end Json

end HybridRetrieval
