import HybridRetrieval.Proofs.Filter.Selection
/-!
# What a match means

A filter asks for an entry with its key and a value that it means (`Filter.IsMetBy`).  Of stored
metadata that the database takes for a match this can be said of what is read back exactly if the
entry that was looked at has the key for its name, is of the filter's JSON type and, if it is a
number, is read alike by the database (`Filter.isMetBy_reread_iff`).
-/

namespace HybridRetrieval

open Json

/-- **Metadata has what a filter asks for**: under its key a value of the same JSON type that is
equal. -/
def Filter.IsMetBy (f : Filter) (m : Metadata) : Prop :=
  ∃ x, m.get? f.key = some x ∧ f.value.Means x

/-- Rereading metadata rereads its entries. -/
theorem Metadata.get?_reread (m : Metadata) (key : String) :
    m.reread.get? key = (m.get? key).map Json.reread := by
  have hlookup : ∀ members : List (String × Json),
      (rereadMembers members).lookup key = (members.lookup key).map Json.reread := by
    intro members
    induction members with
    | nil => rfl
    | cons member rest ih =>
        rw [rereadMembers, List.lookup_cons, List.lookup_cons, ih]
        cases key == member.1 <;> rfl
  exact hlookup m.members

/-- The entry that a key without a backslash looks at is its own, if it has one. -/
theorem Metadata.get?_of_selected? {m : Metadata} {key : String} (hbackslash : '\\' ∉ key.toList)
    (hnul : '\x00' ∉ key.toList) {entry : String × Json} (h : m.selected? key = some entry)
    {x : Json} : m.get? key = some x ↔ entry = (key, x) := by
  constructor
  · intro hget
    exact Option.some.inj (h.symm.trans (selected?_of_get? hbackslash hnul hget))
  · rintro rfl
    have hmem : (key, x) ∈ m.members := List.mem_of_find?_eq_some h
    cases hget : m.get? key with
    | none => exact absurd (List.lookup_eq_none_iff.mp hget _ hmem) (by simp)
    | some y =>
        have hselected := selected?_of_get? hbackslash hnul hget
        rw [h] at hselected
        rw [(Prod.mk.inj (Option.some.inj hselected)).2]

/-- **When a match is right**, for a key without a backslash. -/
theorem Filter.isMetBy_reread_iff {f : Filter} {m : Metadata} (hbackslash : '\\' ∉ f.key.toList)
    (hnul : '\x00' ∉ f.key.toList) {entry : String × Json}
    (hselected : m.selected? f.key = some entry) (hequals : f.value.equals entry.2 = true) :
    f.IsMetBy m.reread ↔
      entry.1 = f.key ∧ f.value.isOfType entry.2 = true ∧ entry.2.ReadAlike := by
  have hget := fun x => m.get?_of_selected? (x := x) hbackslash hnul hselected
  rw [← FilterValue.means_iff hequals, IsMetBy]
  constructor
  · rintro ⟨y, hy, hmeans⟩
    rw [m.get?_reread, Option.map_eq_some_iff] at hy
    obtain ⟨x, hx, rfl⟩ := hy
    obtain rfl := (hget x).mp hx
    exact ⟨rfl, hmeans⟩
  · rintro ⟨hname, hmeans⟩
    have hown := (hget entry.2).mpr (by rw [← hname])
    exact ⟨_, by rw [m.get?_reread, hown, Option.map_some], hmeans⟩

end HybridRetrieval
