import Mathlib.Data.List.Basic
/-!
# Lists of entries

The tables of a database and the files of a disk are kept in the same way, as a list of entries
with a key each.  Putting an entry replaces the one with its key, or adds one at the end; either way
looking a key up then finds what was put (`lookup_put`), and putting it again changes nothing
(`Agree.put_eq`).
-/

namespace HybridRetrieval

namespace Entries

variable {α β : Type} [BEq α] [LawfulBEq α] [DecidableEq α]

/-- The list with the value of one key replaced. -/
private abbrev replaced (entries : List (α × β)) (key : α) (value : β) : List (α × β) :=
  entries.map fun entry => if entry.1 = key then (key, value) else entry

private theorem lookup_replaced_self {entries : List (α × β)} {key : α} (value : β)
    (h : entries.lookup key ≠ none) : (replaced entries key value).lookup key = some value := by
  induction entries with
  | nil => exact absurd rfl h
  | cons entry rest ih =>
      obtain ⟨first, old⟩ := entry
      by_cases hkey : first = key
      · simp [replaced, hkey]
      · have hmiss : (key == first) = false := beq_eq_false_iff_ne.2 (Ne.symm hkey)
        have hrest : rest.lookup key ≠ none := by
          rwa [List.lookup_cons, hmiss] at h
        rw [replaced, List.map_cons, if_neg hkey, List.lookup_cons, hmiss]
        exact ih hrest

private theorem lookup_replaced_of_ne (entries : List (α × β)) {key other : α} (value : β)
    (h : other ≠ key) : (replaced entries key value).lookup other = entries.lookup other := by
  induction entries with
  | nil => rfl
  | cons entry rest ih =>
      obtain ⟨first, old⟩ := entry
      by_cases hkey : first = key
      · have hmiss : (other == first) = false := beq_eq_false_iff_ne.2 (hkey ▸ h)
        have hmiss' : (other == key) = false := beq_eq_false_iff_ne.2 h
        rw [replaced, List.map_cons, if_pos hkey, List.lookup_cons, hmiss', List.lookup_cons, hmiss]
        exact ih
      · rw [replaced, List.map_cons, if_neg hkey, List.lookup_cons, List.lookup_cons]
        cases other == first with
        | true => rfl
        | false => exact ih

/-- Replaces the entry of a key, or adds one at the end. -/
abbrev put (entries : List (α × β)) (key : α) (value : β) : List (α × β) :=
  if (entries.lookup key).isSome then
    entries.map fun entry => if entry.1 = key then (key, value) else entry
  else entries ++ [(key, value)]

/-- Putting an entry decides what its key means and leaves every other key alone. -/
theorem lookup_put (entries : List (α × β)) (key : α) (value : β) (other : α) :
    (put entries key value).lookup other =
      if other = key then some value else entries.lookup other := by
  by_cases h : entries.lookup key = none
  · have habsent : (entries.lookup key).isSome = false := by rw [h]; rfl
    rw [put, habsent, if_neg Bool.false_ne_true]
    by_cases hother : other = key
    · simp [List.lookup_append, hother, h]
    · have hmiss : (other == key) = false := beq_eq_false_iff_ne.2 hother
      simp [List.lookup_append, hother, hmiss, List.lookup_cons]
  · rw [put, if_pos (Option.isSome_iff_ne_none.2 h)]
    by_cases hother : other = key
    · rw [if_pos hother, hother]
      exact lookup_replaced_self value h
    · rw [if_neg hother]
      exact lookup_replaced_of_ne entries value hother

/-! ## Putting what is there -/

/-- The value is found under the key, and no other is behind it. -/
structure Agree (entries : List (α × β)) (key : α) (value : β) : Prop where
  found : entries.lookup key = some value
  all : ∀ entry ∈ entries, entry.1 = key → entry.2 = value

variable {entries : List (α × β)} {key other : α} {value new : β}

/-- An entry that is put is there as it was put. -/
theorem agree_put (entries : List (α × β)) (key : α) (value : β) :
    Agree (put entries key value) key value where
  found := by rw [lookup_put, if_pos rfl]
  all := by
    intro entry hentry hkey
    unfold put at hentry
    split at hentry
    · obtain ⟨old, -, rfl⟩ := List.mem_map.mp hentry
      split
      · rfl
      · rename_i hne
        rw [if_neg hne] at hkey
        exact absurd hkey hne
    · rename_i habsent
      rcases List.mem_append.mp hentry with hold | hlast
      · rw [Option.not_isSome_iff_eq_none, List.lookup_eq_none_iff] at habsent
        exact absurd hkey.symm (by simpa using habsent entry hold)
      · rw [List.mem_singleton.mp hlast]

/-- Putting another entry leaves it so. -/
theorem Agree.put_of_ne (h : Agree entries key value) (hne : key ≠ other) :
    Agree (put entries other new) key value where
  found := by
    rw [lookup_put, if_neg hne]
    exact h.found
  all := by
    intro entry hentry hkey
    unfold put at hentry
    split at hentry
    · obtain ⟨old, hold, rfl⟩ := List.mem_map.mp hentry
      split at hkey
      · exact absurd hkey.symm hne
      · rename_i hother
        rw [if_neg hother]
        exact h.all old hold hkey
    · rcases List.mem_append.mp hentry with hold | hlast
      · exact h.all entry hold hkey
      · rw [List.mem_singleton.mp hlast] at hkey
        exact absurd hkey.symm hne

omit [LawfulBEq α] in
/-- **Putting what is there** changes nothing. -/
theorem Agree.put_eq (h : Agree entries key value) : put entries key value = entries := by
  rw [put, h.found, Option.isSome_some, if_pos rfl]
  refine (List.map_congr_left fun entry hentry => ?_).trans (List.map_id entries)
  by_cases hkey : entry.1 = key
  · rw [if_pos hkey, ← hkey, ← h.all entry hentry hkey]
    rfl
  · rw [if_neg hkey]
    rfl

end Entries

end HybridRetrieval
