import HybridRetrieval.Proofs.Store.Index
import HybridRetrieval.Store.Search
/-!
# Databases that no query tells apart

A dense search reads the data rows; a sparse search reads for each of them the lexeme rows of its
node, too.  So two databases with the same data rows whose indexes agree node by node give the same
answer to every query (`query_congr`), in whatever order the nodes come in the index: for the store
they are alike (`alike_of_ofNode`).
-/

namespace HybridRetrieval

open LexemeRow (ofNode)

namespace Store

/-- The databases have the same data rows in the same order, the same lexeme rows in any order, and
give the store the same answer to every query. -/
structure Alike (s : Store) (x y : Database) : Prop where
  rows : ∃ rows, x.dataRows s.names.data = .ok rows ∧ y.dataRows s.names.data = .ok rows
  lexemes : ∃ xs ys, x.lexemeRows s.names.lexemes = .ok xs ∧
    y.lexemeRows s.names.lexemes = .ok ys ∧ xs.Perm ys
  answers : ∀ q, s.query q (some x) = s.query q (some y)

/-- The lexeme rows that match a data row are those of its node with lexemes of the query. -/
theorem matching_of_nodeId {row : DataRow} {id : String} (h : row.nodeId = .text id)
    (terms : List String) (lexemes : List LexemeRow) :
    matching terms lexemes row = (ofNode id lexemes).filter fun l => terms.contains l.lexeme := by
  rw [matching, h, ofNode, List.filter_filter]
  apply List.filter_congr
  intro l _
  rw [Bool.and_comm]
  congr 1
  rw [Bool.eq_iff_iff, beq_iff_eq, Cell.text.injEq, decide_eq_true_iff, eq_comm]

section Searches

variable {xs ys : List LexemeRow} (hnodes : ∀ id, ofNode id xs = ofNode id ys)
include hnodes

/-- The lexeme rows that match a data row are among those of its node. -/
theorem matching_congr (terms : List String) (row : DataRow) :
    matching terms xs row = matching terms ys row := by
  cases hid : row.nodeId with
  | blob bytes =>
      unfold matching
      rw [hid, List.filter_eq_nil_iff.mpr (by simp), List.filter_eq_nil_iff.mpr (by simp)]
  | text id => rw [matching_of_nodeId hid, matching_of_nodeId hid, hnodes]

theorem sparseHits_congr (terms : List String) (limit : Nat) (filters : List Filter)
    (rows : List DataRow) :
    sparseHits terms limit filters xs rows = sparseHits terms limit filters ys rows := by
  simp only [sparseHits, matching_congr hnodes]

end Searches

section Queries

variable {s : Store} {x y : Database} {rows : List DataRow}
  (hx : x.dataRows s.names.data = .ok rows) (hy : y.dataRows s.names.data = .ok rows)
include hx hy

theorem denseQuery_congr (embedding : List Single) (limit : Nat) (filters : List Filter) :
    s.denseQuery embedding limit filters (some x) =
      s.denseQuery embedding limit filters (some y) := by
  simp only [denseQuery, Connection.database, hx, hy, bind, Except.bind]

variable {xs ys : List LexemeRow} (hxs : x.lexemeRows s.names.lexemes = .ok xs)
  (hys : y.lexemeRows s.names.lexemes = .ok ys) (hnodes : ∀ id, ofNode id xs = ofNode id ys)
include hxs hys hnodes

theorem sparseQuery_congr (text : String) (limit : Nat) (filters : List Filter) :
    s.sparseQuery text limit filters (some x) = s.sparseQuery text limit filters (some y) := by
  simp only [sparseQuery, Connection.database, hx, hy, hxs, hys, sparseHits_congr hnodes, bind,
    Except.bind]

/-- **Every query has the same answer**, also the same failure. -/
theorem query_congr (q : Query) : s.query q (some x) = s.query q (some y) := by
  simp only [query, denseQuery_congr hx hy, sparseQuery_congr hx hy hxs hys hnodes]

/-- **Indexes that agree node by node** make databases with the same data rows alike. -/
theorem alike_of_ofNode : s.Alike x y where
  rows := ⟨rows, hx, hy⟩
  lexemes := by
    refine ⟨xs, ys, hxs, hys, LexemeRow.perm_iff_ofNode.mpr fun id => ?_⟩
    rw [hnodes id]
  answers := query_congr hx hy hxs hys hnodes

end Queries

end Store

end HybridRetrieval
