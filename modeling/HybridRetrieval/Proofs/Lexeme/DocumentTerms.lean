import HybridRetrieval.Lexeme.Analyzer
import Mathlib.Algebra.GroupWithZero.Nat
import Mathlib.Data.List.Dedup
import Mathlib.Data.List.Sort
/-!
# The terms of a document

`Analyzer.documentTerms` sorts the lexemes of a text and measures its runs.  Written out again the
runs are the list they were measured on (`flatMap_runLengths`), and on a sorted list no two runs are
of one lexeme (`nodup_keys_runLengths`).  From these two facts follow the statements used elsewhere:

* `nodup_keys_documentTerms`: each lexeme stands in the terms once, so that looking it up finds its
  entry (`lookup_documentTerms`);
* `mem_keys_documentTerms`: the terms of a text are its lexemes, and count them
  (`count_of_mem_documentTerms`);
* `pairwise_keys_documentTerms`: the terms are in the order of their lexemes, so together with what
  they count (`mem_documentTerms_iff`) they are determined by the frequencies in the text;
* `length_documentTerms`: there are as many terms as distinct lexemes, and the counts add up to the
  number of all lexemes (`sum_documentTerms`);
* `documentTerms_of_perm`: the order of the lexemes in the text makes no difference.
-/

namespace HybridRetrieval

namespace Analyzer

/-- A term written out as often as it counts. -/
def writeOut (term : String × Nat) : List String := List.replicate term.2 term.1

/-- Putting a member in front either starts a run or makes the first one longer. -/
theorem runLengths_cons (x : String) (rest : List String) :
    (∃ n more, runLengths rest = (x, n) :: more ∧ runLengths (x :: rest) = (x, n + 1) :: more) ∨
      ((∀ n more, runLengths rest ≠ (x, n) :: more) ∧
        runLengths (x :: rest) = (x, 1) :: runLengths rest) := by
  rw [runLengths]
  cases h : runLengths rest with
  | nil => exact Or.inr ⟨by simp, rfl⟩
  | cons first more =>
      obtain ⟨y, n⟩ := first
      by_cases hxy : x = y
      · subst hxy
        exact Or.inl ⟨n, more, rfl, by simp⟩
      · refine Or.inr ⟨?_, by simp [hxy]⟩
        intro m others heq
        simp only [List.cons.injEq, Prod.mk.injEq] at heq
        exact hxy heq.1.1.symm

/-- **Nothing is lost.**  The runs written out one after the other are the measured list. -/
theorem flatMap_runLengths (xs : List String) : (runLengths xs).flatMap writeOut = xs := by
  induction xs with
  | nil => rfl
  | cons x rest ih =>
      rcases runLengths_cons x rest with ⟨n, more, hrest, hall⟩ | ⟨-, hall⟩
      · rw [hrest, List.flatMap_cons] at ih
        rw [hall, List.flatMap_cons]
        calc writeOut (x, n + 1) ++ more.flatMap writeOut
            = x :: (writeOut (x, n) ++ more.flatMap writeOut) := by
              simp [writeOut, List.replicate_succ]
          _ = x :: rest := by rw [ih]
      · rw [hall, List.flatMap_cons, ih]
        rfl

/-- No run is empty. -/
theorem pos_of_mem_runLengths {xs : List String} {term : String × Nat}
    (h : term ∈ runLengths xs) : 0 < term.2 := by
  induction xs with
  | nil => cases h
  | cons x rest ih =>
      rcases runLengths_cons x rest with ⟨n, more, hrest, hall⟩ | ⟨-, hall⟩
      · rw [hall] at h
        rcases List.mem_cons.mp h with rfl | h
        · exact Nat.succ_pos n
        · exact ih (hrest ▸ List.mem_cons_of_mem _ h)
      · rw [hall] at h
        rcases List.mem_cons.mp h with rfl | h
        · exact Nat.one_pos
        · exact ih h

/-- The members that have a run are those of the list. -/
theorem mem_keys_runLengths {xs : List String} {x : String} :
    x ∈ (runLengths xs).map Prod.fst ↔ x ∈ xs := by
  constructor
  · intro h
    obtain ⟨term, hterm, rfl⟩ := List.mem_map.mp h
    have hpos := pos_of_mem_runLengths hterm
    rw [← flatMap_runLengths xs]
    exact List.mem_flatMap.mpr ⟨term, hterm, by simp [writeOut, Nat.pos_iff_ne_zero.mp hpos]⟩
  · intro h
    rw [← flatMap_runLengths xs] at h
    obtain ⟨term, hterm, hx⟩ := List.mem_flatMap.mp h
    exact List.mem_map.mpr ⟨term, hterm, (List.mem_replicate.mp hx).2.symm⟩

/-- In a sorted list equal members stand together, so each has one run. -/
theorem nodup_keys_runLengths {xs : List String} (h : xs.Pairwise (· ≤ ·)) :
    ((runLengths xs).map Prod.fst).Nodup := by
  induction xs with
  | nil => exact List.nodup_nil
  | cons x rest ih =>
      have hrest := ih h.of_cons
      rcases runLengths_cons x rest with ⟨n, more, hmore, hall⟩ | ⟨hnew, hall⟩
      · rw [hmore] at hrest
        rw [hall]
        exact hrest
      · rw [hall, List.map_cons, List.nodup_cons]
        refine ⟨?_, hrest⟩
        intro hmem
        -- `x` is the least member, so if it came again it would come first and be in the first run
        have hx : x ∈ rest := mem_keys_runLengths.mp hmem
        cases rest with
        | nil => cases hx
        | cons y tail =>
            have hxy : x ≤ y := List.rel_of_pairwise_cons h List.mem_cons_self
            have hyx : y ≤ x := by
              rcases List.mem_cons.mp hx with rfl | hx
              · exact String.le_refl _
              · exact List.rel_of_pairwise_cons h.of_cons hx
            obtain rfl := String.le_antisymm hxy hyx
            rcases runLengths_cons x tail with ⟨n, more, -, hhead⟩ | ⟨-, hhead⟩
            · exact hnew _ _ hhead
            · exact hnew _ _ hhead

/-- The runs come in the order of the list. -/
theorem keys_runLengths_sublist (xs : List String) :
    ((runLengths xs).map Prod.fst).Sublist xs := by
  induction xs with
  | nil => exact List.Sublist.slnil
  | cons x rest ih =>
      rcases runLengths_cons x rest with ⟨n, more, hrest, hall⟩ | ⟨-, hall⟩
      · rw [hrest] at ih
        rw [hall]
        exact ih.cons x
      · rw [hall]
        exact ih.cons_cons x

/-- Where each member has one run, the run is as long as the member is frequent. -/
theorem count_flatMap_writeOut {terms : List (String × Nat)} (h : (terms.map Prod.fst).Nodup)
    {term : String × Nat} (hterm : term ∈ terms) :
    (terms.flatMap writeOut).count term.1 = term.2 := by
  induction terms with
  | nil => cases hterm
  | cons first rest ih =>
      obtain ⟨hfirst, hrest⟩ := List.nodup_cons.mp h
      rw [List.flatMap_cons, List.count_append, writeOut, List.count_replicate]
      rcases List.mem_cons.mp hterm with rfl | hterm
      · have hnone : (rest.flatMap writeOut).count term.1 = 0 := by
          rw [List.count_eq_zero]
          intro hmem
          obtain ⟨other, hother, hx⟩ := List.mem_flatMap.mp hmem
          refine hfirst (List.mem_map.mpr ⟨other, hother, ?_⟩)
          exact (List.mem_replicate.mp hx).2.symm
        simp [hnone]
      · have hne : first.1 ≠ term.1 := by
          intro heq
          exact hfirst (List.mem_map.mpr ⟨term, hterm, heq.symm⟩)
        simp [hne, ih hrest hterm]

/-- The sorted lexemes of a text. -/
private abbrev sorted (a : Analyzer) (text : String) : List String :=
  (a.lexemes text).mergeSort fun x y => decide (x ≤ y)

private theorem pairwise_sorted (a : Analyzer) (text : String) :
    (sorted a text).Pairwise (· ≤ ·) := by
  have h := @List.pairwise_mergeSort _ (fun x y : String => decide (x ≤ y))
    (fun x y z hxy hyz => by simpa using String.le_trans (by simpa using hxy) (by simpa using hyz))
    (fun x y => by simpa using String.le_total x y) (a.lexemes text)
  exact h.imp (fun hle => of_decide_eq_true hle)

/-- Each lexeme of a text stands in its terms once. -/
theorem nodup_keys_documentTerms (a : Analyzer) (text : String) :
    ((a.documentTerms text).map Prod.fst).Nodup :=
  nodup_keys_runLengths (pairwise_sorted a text)

/-- The terms of a text come in the order of their lexemes. -/
theorem pairwise_keys_documentTerms (a : Analyzer) (text : String) :
    ((a.documentTerms text).map Prod.fst).Pairwise (· < ·) := by
  have hle := (pairwise_sorted a text).sublist (keys_runLengths_sublist _)
  refine (hle.and (nodup_keys_documentTerms a text)).imp fun {x y} h => ?_
  exact String.not_le.mp fun hyx => h.2 (String.le_antisymm h.1 hyx)

/-- Where no key comes twice, looking a key up finds its entry. -/
theorem lookup_eq_some_of_nodup {terms : List (String × Nat)} (h : (terms.map Prod.fst).Nodup)
    {x : String} {n : Nat} : terms.lookup x = some n ↔ (x, n) ∈ terms := by
  induction terms with
  | nil => simp
  | cons term rest ih =>
      obtain ⟨y, m⟩ := term
      rw [List.map_cons, List.nodup_cons] at h
      by_cases hxy : x = y
      · subst hxy
        have hlater : (x, n) ∉ rest := fun hmem => h.1 (List.mem_map.mpr ⟨(x, n), hmem, rfl⟩)
        simp [hlater, eq_comm]
      · have hmiss : (x == y) = false := beq_eq_false_iff_ne.2 hxy
        simp [List.lookup_cons, hmiss, hxy, ih h.2]

/-- Looking a lexeme up finds its only entry. -/
theorem lookup_documentTerms {a : Analyzer} {text x : String} {n : Nat} :
    (a.documentTerms text).lookup x = some n ↔ (x, n) ∈ a.documentTerms text :=
  lookup_eq_some_of_nodup (nodup_keys_documentTerms a text)

/-- The terms of a text are its lexemes. -/
theorem mem_keys_documentTerms {a : Analyzer} {text x : String} :
    x ∈ (a.documentTerms text).map Prod.fst ↔ x ∈ a.lexemes text := by
  rw [documentTerms, mem_keys_runLengths]
  exact (List.mergeSort_perm _ _).mem_iff

/-- A term counts the occurrences of its lexeme. -/
theorem count_of_mem_documentTerms {a : Analyzer} {text : String} {term : String × Nat}
    (h : term ∈ a.documentTerms text) : (a.lexemes text).count term.1 = term.2 := by
  have hcount := count_flatMap_writeOut (nodup_keys_documentTerms a text) h
  rw [documentTerms, flatMap_runLengths] at hcount
  rw [← hcount]
  exact ((List.mergeSort_perm (a.lexemes text) _).count_eq term.1).symm

/-- **The terms of a text** are the lexemes that occur in it, with the number of occurrences. -/
theorem mem_documentTerms_iff {a : Analyzer} {text x : String} {n : Nat} :
    (x, n) ∈ a.documentTerms text ↔ 0 < n ∧ (a.lexemes text).count x = n := by
  constructor
  · intro h
    exact ⟨pos_of_mem_runLengths h, count_of_mem_documentTerms h⟩
  · rintro ⟨hpos, rfl⟩
    obtain ⟨term, hterm, rfl⟩ :=
      List.mem_map.mp (mem_keys_documentTerms.mpr (List.count_pos_iff.mp hpos))
    rw [count_of_mem_documentTerms hterm]
    exact hterm

/-- There are as many terms as distinct lexemes. -/
theorem length_documentTerms (a : Analyzer) (text : String) :
    (a.documentTerms text).length = (a.lexemes text).dedup.length := by
  have hperm : ((a.documentTerms text).map Prod.fst).Perm (a.lexemes text).dedup := by
    rw [List.perm_ext_iff_of_nodup (nodup_keys_documentTerms a text) (List.nodup_dedup _)]
    intro x
    rw [mem_keys_documentTerms, List.mem_dedup]
  simpa using hperm.length_eq

/-- The counts add up to the number of lexemes. -/
theorem sum_documentTerms (a : Analyzer) (text : String) :
    ((a.documentTerms text).map Prod.snd).sum = (a.lexemes text).length := by
  have hlength := congrArg List.length (flatMap_runLengths (sorted a text))
  rw [List.length_flatMap, List.length_mergeSort] at hlength
  rw [← hlength, documentTerms]
  simp [writeOut]

/-- **The order of the lexemes** makes no difference to the terms. -/
theorem documentTerms_of_perm {a : Analyzer} {text other : String}
    (h : (a.lexemes text).Perm (a.lexemes other)) :
    a.documentTerms text = a.documentTerms other := by
  have hsorted : (sorted a text).Perm (sorted a other) :=
    (List.mergeSort_perm _ _).trans (h.trans (List.mergeSort_perm _ _).symm)
  exact congrArg runLengths (hsorted.eq_of_pairwise (fun _ _ _ _ => String.le_antisymm)
    (pairwise_sorted a text) (pairwise_sorted a other))

/-- How often the terms count a lexeme; none that is missing. -/
def frequency (terms : List (String × Nat)) (x : String) : Nat := (terms.lookup x).getD 0

/-- The terms of a text count how often a lexeme occurs in it. -/
theorem frequency_documentTerms (a : Analyzer) (text x : String) :
    frequency (a.documentTerms text) x = (a.lexemes text).count x := by
  rcases Nat.eq_zero_or_pos ((a.lexemes text).count x) with hnone | hpos
  · have hmiss : (a.documentTerms text).lookup x = none := by
      rw [Option.eq_none_iff_forall_ne_some]
      intro n hn
      obtain ⟨hpos, hcount⟩ := mem_documentTerms_iff.mp (lookup_documentTerms.mp hn)
      omega
    rw [frequency, hmiss, hnone]
    rfl
  · rw [frequency, lookup_documentTerms.mpr (mem_documentTerms_iff.mpr ⟨hpos, rfl⟩)]
    rfl

end Analyzer

end HybridRetrieval
