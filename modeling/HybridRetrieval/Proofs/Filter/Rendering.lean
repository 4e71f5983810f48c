import HybridRetrieval.Filter.Basic
import Mathlib.Data.List.Flatten
/-!
# Rendered filters

The keys of a list of filters are checked in order, and the first that no path can select is
reported (`Filter.IsFirstRefused`, `Predicate.checkKeys_eq_error_iff`).  What is rendered for the
others is one term of the column for each filter, with two placeholders, and the two values for
them, the path before the value.

Whether placeholders and values are in step is said by reading the clause as the database does, from
left to right, the next value for each placeholder (`Predicate.bound`).  The step is one term: the
text in front of a placeholder has none of its own (`Predicate.bound_text`), so a term takes exactly
the values of its filter (`Predicate.bound_term`).  The run over the list is `bound_clause`.
-/

namespace HybridRetrieval

theorem isSupportedKey_iff {key : String} :
    isSupportedKey key = true ↔ key ≠ "" ∧ '"' ∉ key.toList := by
  simp [isSupportedKey]

/-- The key is that of the first filter whose key no path can select. -/
def Filter.IsFirstRefused (filters : List Filter) (key : String) : Prop :=
  ∃ before f after, filters = before ++ f :: after ∧ f.key = key ∧ (key = "" ∨ '"' ∈ key.toList) ∧
    ∀ g ∈ before, g.key ≠ "" ∧ '"' ∉ g.key.toList

namespace Predicate

/-- **What a check reports** is the first key that no path can select. -/
theorem checkKeys_eq_error_iff {filters : List Filter} {e : Error} :
    checkKeys filters = .error e ↔
      ∃ key, e = .unsupportedKey key ∧ Filter.IsFirstRefused filters key := by
  have hfirst : ∀ f, filters.find? (fun f => !isSupportedKey f.key) = some f ↔
      (f.key = "" ∨ '"' ∈ f.key.toList) ∧ ∃ before after, filters = before ++ f :: after ∧
        ∀ g ∈ before, g.key ≠ "" ∧ '"' ∉ g.key.toList := by
    intro f
    have hrefused : isSupportedKey f.key = false ↔ f.key = "" ∨ '"' ∈ f.key.toList := by
      rw [← Bool.not_eq_true, isSupportedKey_iff, Decidable.not_and_iff_or_not, ne_eq,
        Decidable.not_not, Decidable.not_not]
    rw [List.find?_eq_some_iff_append]
    simp only [Bool.not_eq_true', hrefused, Bool.not_not, isSupportedKey_iff]
  unfold checkKeys Filter.IsFirstRefused
  cases hfind : filters.find? fun f => !isSupportedKey f.key with
  | none =>
      refine iff_of_false (fun h => by cases h) ?_
      rintro ⟨key, -, before, f, after, hfilters, rfl, hrefused, hbefore⟩
      cases hfind.symm.trans ((hfirst f).mpr ⟨hrefused, before, after, hfilters, hbefore⟩)
  | some f =>
      constructor
      · rintro ⟨⟩
        obtain ⟨hrefused, before, after, hfilters, hbefore⟩ := (hfirst f).mp hfind
        exact ⟨f.key, rfl, before, f, after, hfilters, rfl, hrefused, hbefore⟩
      · rintro ⟨key, rfl, before, g, after, hfilters, rfl, hrefused, hbefore⟩
        have hsame := hfind.symm.trans
          ((hfirst g).mpr ⟨hrefused, before, after, hfilters, hbefore⟩)
        rw [Option.some.inj hsame]

/-- Keys are accepted if a path can select each of them. -/
theorem checkKeys_eq_ok_iff {filters : List Filter} :
    checkKeys filters = .ok () ↔ ∀ f ∈ filters, f.key ≠ "" ∧ '"' ∉ f.key.toList := by
  have hnone : filters.find? (fun f => !isSupportedKey f.key) = none ↔
      ∀ f ∈ filters, f.key ≠ "" ∧ '"' ∉ f.key.toList := by
    simp only [List.find?_eq_none, Bool.not_eq_true', Bool.not_eq_false, isSupportedKey_iff]
  rw [← hnone, checkKeys]
  cases filters.find? fun f => !isSupportedKey f.key <;> simp

/-! ## Reading a clause -/

/-- The text with its placeholders replaced, from left to right, by the values. -/
def bound : List Char → List SqlValue → List (Char ⊕ SqlValue)
  | [], _ => []
  | c :: text, [] => .inl c :: bound text []
  | c :: text, value :: values =>
    if c = '?' then .inr value :: bound text values else .inl c :: bound text (value :: values)

@[simp]
theorem bound_mark (text : List Char) (value : SqlValue) (values : List SqlValue) :
    bound ('?' :: text) (value :: values) = .inr value :: bound text values := by
  rw [bound, if_pos rfl]

/-- A text without placeholders takes no value. -/
theorem bound_text {text : List Char} (h : '?' ∉ text) (more : List Char)
    (values : List SqlValue) :
    bound (text ++ more) values = text.map .inl ++ bound more values := by
  induction text with
  | nil => rfl
  | cons c text ih =>
      obtain ⟨hc, htext⟩ := List.ne_and_not_mem_of_not_mem_cons h
      rw [List.map_cons, List.cons_append, List.cons_append, ← ih htext]
      cases values with
      | nil => rw [bound]
      | cons value values => rw [bound, if_neg hc.symm]

/-- A filter as the database reads it: an entry of the column, by its path, has the value. -/
def boundTerm (column : String) (f : Filter) : List (Char ⊕ SqlValue) :=
  (" AND json_extract(" ++ column ++ ", ").toList.map .inl ++ .inr (.text (keyPath f.key)) ::
    (") = ".toList.map .inl ++ [.inr f.value.toSql])

/-- The two values for a filter. -/
def paramsOf (f : Filter) : List SqlValue := [.text (keyPath f.key), f.value.toSql]

section Column

variable {column : String}

/-- A term is text, a placeholder, text and another placeholder. -/
theorem toList_term (column : String) : (term column).toList =
    (" AND json_extract(" ++ column ++ ", ").toList ++ '?' :: (") = ".toList ++ ['?']) := by
  have hlast : ", ?) = ?" = ", " ++ "?) = ?" := by decide +kernel
  have hmarks : "?) = ?".toList = '?' :: (") = ".toList ++ ['?']) := by decide +kernel
  calc (term column).toList
      = (" AND json_extract(" ++ column ++ (", " ++ "?) = ?")).toList :=
        congrArg (fun last => (" AND json_extract(" ++ column ++ last).toList) hlast
    _ = (" AND json_extract(" ++ column ++ ", " ++ "?) = ?").toList :=
        congrArg String.toList String.append_assoc.symm
    _ = (" AND json_extract(" ++ column ++ ", ").toList ++ "?) = ?".toList := String.toList_append
    _ = _ := by rw [hmarks]

/-- What a column without placeholders has around it in a term has none either. -/
theorem placeholder_notMem_term (h : '?' ∉ column.toList) :
    '?' ∉ (" AND json_extract(" ++ column ++ ", ").toList := by
  have hfirst : '?' ∉ " AND json_extract(".toList := by decide
  have hlast : '?' ∉ ", ".toList := by decide
  simp only [String.toList_append, List.mem_append, hfirst, h, hlast, or_self, not_false_iff]

/-- **A term takes the values of its filter**, and leaves the others. -/
theorem bound_term (h : '?' ∉ column.toList) (f : Filter) (more : List Char)
    (values : List SqlValue) :
    bound ((term column).toList ++ more) (paramsOf f ++ values) =
      boundTerm column f ++ bound more values := by
  have hafter : '?' ∉ ") = ".toList := by decide
  rw [toList_term, List.append_assoc, bound_text (placeholder_notMem_term h), List.cons_append,
    List.append_assoc, paramsOf, List.cons_append, List.cons_append, List.nil_append, bound_mark,
    bound_text hafter, List.singleton_append, bound_mark]
  simp [boundTerm]

/-- **A clause takes the values of its filters**, each its own. -/
theorem bound_clause (h : '?' ∉ column.toList) (filters : List Filter) :
    bound (filters.flatMap fun _ => (term column).toList) (filters.flatMap paramsOf) =
      filters.flatMap (boundTerm column) := by
  induction filters with
  | nil => rfl
  | cons f rest ih => rw [List.flatMap_cons, List.flatMap_cons, bound_term h, ih, List.flatMap_cons]

/-- A term has two placeholders. -/
theorem count_term (h : '?' ∉ column.toList) : (term column).toList.count '?' = 2 := by
  rw [toList_term, List.count_append, List.count_eq_zero.mpr (placeholder_notMem_term h)]
  decide

end Column

/-- The values of the filters stand at the even and at the odd places. -/
theorem params_getElem? {filters : List Filter} {i : Nat} {f : Filter} (h : filters[i]? = some f) :
    (filters.flatMap paramsOf)[2 * i]? = some (.text (keyPath f.key)) ∧
      (filters.flatMap paramsOf)[2 * i + 1]? = some f.value.toSql := by
  induction filters generalizing i with
  | nil => cases h
  | cons first rest ih =>
      cases i with
      | zero =>
          obtain rfl := Option.some.inj h
          exact ⟨rfl, rfl⟩
      | succ i => exact ih h

/-- A list with acceptable keys is rendered as so many terms and the values of its filters. -/
theorem render_eq_ok_iff {filters : List Filter} {column : String} {p : Predicate} :
    render filters column = .ok p ↔ checkKeys filters = .ok () ∧
      p = ⟨String.join (filters.map fun _ => term column), filters.flatMap paramsOf⟩ := by
  unfold render
  cases checkKeys filters with
  | error e => simp [bind, Except.bind]
  | ok done =>
      simp only [bind, Except.bind, pure, Except.pure, Except.ok.injEq, true_and]
      exact eq_comm

/-- Rendering fails only where a key is refused. -/
theorem render_eq_error_iff {filters : List Filter} {column : String} {e : Error} :
    render filters column = .error e ↔ checkKeys filters = .error e := by
  unfold render
  cases checkKeys filters <;> simp [bind, Except.bind, pure, Except.pure]

/-- **Rendered filters carry nothing of a key or a value into the clause.**  A list is refused
exactly if a key of it is empty or has a double quote, for the first such key.  For any other the
clause is as many terms of the column as there are filters, so lists of one length share it; and the
values are two for each filter, in order, the path before the value.  A column without placeholders
gives as many of them as there are values, and each filter its own two. -/
theorem render_laws (column : String) (filters : List Filter) :
    (∀ e, render filters column = .error e ↔
      ∃ key, e = .unsupportedKey key ∧ Filter.IsFirstRefused filters key) ∧
    ((∃ p, render filters column = .ok p) ↔
      ∀ f ∈ filters, f.key ≠ "" ∧ '"' ∉ f.key.toList) ∧
    (∀ others p p', filters.length = others.length → render filters column = .ok p →
      render others column = .ok p' → p.clause = p'.clause) ∧
    ∀ p, render filters column = .ok p →
      p.clause = String.join (List.replicate filters.length (term column)) ∧
      p.params.length = 2 * filters.length ∧
      (∀ i f, filters[i]? = some f → p.params[2 * i]? = some (.text (keyPath f.key)) ∧
        p.params[2 * i + 1]? = some f.value.toSql) ∧
      ('?' ∉ column.toList → p.clause.toList.count '?' = p.params.length ∧
        bound p.clause.toList p.params = filters.flatMap (boundTerm column)) := by
  have hclause : ∀ (filters : List Filter) p, render filters column = .ok p →
      p.clause = String.join (List.replicate filters.length (term column)) := by
    intro filters p hp
    rw [(render_eq_ok_iff.mp hp).2, List.map_const']
  refine ⟨fun e => render_eq_error_iff.trans checkKeys_eq_error_iff, ?_, ?_, ?_⟩
  · rw [← checkKeys_eq_ok_iff]
    simp only [render_eq_ok_iff, exists_and_left, exists_eq, and_true]
  · intro others p p' hlength hp hp'
    rw [hclause filters p hp, hclause others p' hp', hlength]
  · intro p hp
    have hlength : (filters.flatMap paramsOf).length = 2 * filters.length := by
      simp [List.length_flatMap, paramsOf, List.map_const', Nat.mul_comm]
    have htext : (String.join (filters.map fun _ => term column)).toList =
        filters.flatMap fun _ => (term column).toList := by
      rw [String.toList_join, List.flatMap_map]
    refine ⟨hclause filters p hp, ?_⟩
    obtain ⟨-, rfl⟩ := render_eq_ok_iff.mp hp
    refine ⟨hlength, fun i f hf => params_getElem? hf, fun hcolumn => ?_⟩
    have hcount : (filters.flatMap fun _ => (term column).toList).count '?' =
        2 * filters.length := by
      simp [List.count_flatMap, Function.comp_def, count_term hcolumn, List.map_const',
        Nat.mul_comm]
    exact ⟨by rw [htext, hcount, hlength], by rw [htext, bound_clause hcolumn]⟩

/-- Two filters give four placeholders with their paths and values. -/
theorem render_laws_twoFilters :
    ∃ p, render [⟨"test_key", .text "test_value"⟩, ⟨"page", .integer 3⟩] "d.metadata" = .ok p ∧
      p.clause.toList.count '?' = 4 ∧
      p.params[2]? = some (.text "$.\"page\"") ∧ p.params[3]? = some (.integer 3) := by
  obtain ⟨-, hok, -, hall⟩ := render_laws "d.metadata"
    [⟨"test_key", .text "test_value"⟩, ⟨"page", .integer 3⟩]
  obtain ⟨p, hp⟩ := hok.mpr (by decide +kernel)
  obtain ⟨-, hlength, hplaces, hcount⟩ := hall p hp
  refine ⟨p, hp, (hcount (by decide +kernel)).1.trans hlength, (hplaces 1 _ rfl).1.trans ?_,
    (hplaces 1 _ rfl).2⟩
  decide +kernel

end Predicate

end HybridRetrieval
