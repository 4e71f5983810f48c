import HybridRetrieval.Database.TableNames
/-!
# The names of logical tables

An accepted name gives two tables and two indexes, and no two of the four that could get in each
other's way are equal: the index table has a longer name than the data table
(`lexemes_ne_data`), and an index starts with another letter than a table (`ne_documentIndex`,
`ne_lexemeIndex`).  An index tells which table it belongs to (`data_eq_of_documentIndex`,
`lexemes_eq_of_lexemeIndex`), and by which column (`documentIndex_ne_lexemeIndex`).

The tables of two accepted names are compared by the names in small letters (`data_eq_data_iff`,
`data_eq_lexemes_iff`).
-/

namespace HybridRetrieval

namespace TableNames

/-- The names come from a logical name that is accepted. -/
def Accepted (names : TableNames) : Prop := ∃ name, ofName name = .ok names

/-- How accepted names are built. -/
theorem Accepted.shape {names : TableNames} (h : names.Accepted) :
    (∃ tail, names.data = "data_" ++ tail) ∧ names.lexemes = names.data ++ "_lexemes" := by
  obtain ⟨name, h⟩ := h
  unfold ofName at h
  split at h
  · obtain rfl := Except.ok.inj h
    exact ⟨⟨_, rfl⟩, rfl⟩
  · cases h

theorem lexemes_ne_data {names : TableNames} (h : names.Accepted) :
    names.lexemes ≠ names.data := by
  intro heq
  have hlength := congrArg String.length heq
  rw [h.shape.2, String.length_append] at hlength
  have hsuffix : "_lexemes".length = 8 := rfl
  omega

/-- Both tables of a logical name start with the letter `d`. -/
theorem Accepted.head? {names : TableNames} (h : names.Accepted) :
    names.data.toList.head? = some 'd' ∧ names.lexemes.toList.head? = some 'd' := by
  obtain ⟨⟨tail, hdata⟩, hlexemes⟩ := h.shape
  rw [hlexemes, hdata]
  simp [String.toList_append]

theorem head?_documentIndex (names : TableNames) :
    names.documentIndex.toList.head? = some 'i' := by
  simp [documentIndex, String.toList_append]

theorem head?_lexemeIndex (names : TableNames) : names.lexemeIndex.toList.head? = some 'i' := by
  simp [lexemeIndex, String.toList_append]

/-- An index is named like neither table. -/
theorem ne_documentIndex {names : TableNames} (h : names.Accepted) :
    names.documentIndex ≠ names.data ∧ names.documentIndex ≠ names.lexemes := by
  have hindex := names.head?_documentIndex
  constructor
  · intro heq
    rw [heq, h.head?.1] at hindex
    cases hindex
  · intro heq
    rw [heq, h.head?.2] at hindex
    cases hindex

theorem ne_lexemeIndex {names : TableNames} (h : names.Accepted) :
    names.lexemeIndex ≠ names.data ∧ names.lexemeIndex ≠ names.lexemes := by
  have hindex := names.head?_lexemeIndex
  constructor
  · intro heq
    rw [heq, h.head?.1] at hindex
    cases hindex
  · intro heq
    rw [heq, h.head?.2] at hindex
    cases hindex

/-- The index of data rows names its table. -/
theorem data_eq_of_documentIndex {names others : TableNames}
    (h : names.documentIndex = others.documentIndex) : names.data = others.data := by
  rwa [documentIndex, documentIndex, String.append_left_inj, String.append_right_inj] at h

/-- The index of lexeme rows names its table. -/
theorem lexemes_eq_of_lexemeIndex {names others : TableNames}
    (h : names.lexemeIndex = others.lexemeIndex) : names.lexemes = others.lexemes := by
  rwa [lexemeIndex, lexemeIndex, String.append_left_inj, String.append_right_inj] at h

/-- No index of data rows is named like an index of lexeme rows: they end in different letters. -/
theorem documentIndex_ne_lexemeIndex (names others : TableNames) :
    names.documentIndex ≠ others.lexemeIndex := by
  intro heq
  have hlast := congrArg (fun s : String => s.toList.reverse.head?) heq
  simp [documentIndex, lexemeIndex, String.toList_append] at hlast

/-- Small letters, character by character. -/
theorem toLower_eq (name : String) :
    name.toLower = String.ofList (name.toList.map Char.toLower) := by
  apply String.toList_injective
  rw [String.toList_ofList]
  exact String.toList_map

/-- The tables of an accepted name: a prefix, the name in small letters, and a suffix. -/
theorem ofName_eq_ok {name : String} {names : TableNames} (h : ofName name = .ok names) :
    names.data = "data_" ++ name.toLower ∧ names.lexemes = names.data ++ "_lexemes" := by
  unfold ofName at h
  split at h
  · obtain rfl := Except.ok.inj h
    rw [toLower_eq]
    exact ⟨rfl, rfl⟩
  · cases h

section Names

variable {a b : String} {x y : TableNames} (ha : ofName a = .ok x) (hb : ofName b = .ok y)
include ha hb

theorem data_eq_data_iff : x.data = y.data ↔ a.toLower = b.toLower := by
  rw [(ofName_eq_ok ha).1, (ofName_eq_ok hb).1, String.append_right_inj]

theorem lexemes_eq_lexemes_iff : x.lexemes = y.lexemes ↔ a.toLower = b.toLower := by
  rw [(ofName_eq_ok ha).2, (ofName_eq_ok hb).2, String.append_left_inj, data_eq_data_iff ha hb]

/-- A data table is in the place of an index table if its name has the suffix. -/
theorem data_eq_lexemes_iff : x.data = y.lexemes ↔ a.toLower = b.toLower ++ "_lexemes" := by
  rw [(ofName_eq_ok hb).2, (ofName_eq_ok ha).1, (ofName_eq_ok hb).1, String.append_assoc,
    String.append_right_inj]

end Names

end TableNames

end HybridRetrieval
