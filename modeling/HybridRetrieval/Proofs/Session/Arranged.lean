import HybridRetrieval.Proofs.Session.EveryTable
import HybridRetrieval.Proofs.Store.Index
/-!
# In which order the lexemes of a node stand

A sum of floating-point numbers depends on its order, so a rank depends on the order in which the
lexeme rows of a node stand in the index.  They stand in the order of their lexemes
(`LexemeRow.Ascending`): a node gets its rows from `documentTerms`, all at once, and afterwards rows
are only taken away.  When an index is filled, no two data rows are of one node, so the rows of
different texts do not mix.

The invariant therefore has two sides, which are said together, table by table (`Table.Arranged`).
It holds in every state of every run, with edits in between (`Session.EditedRun.arranged`).
-/

namespace HybridRetrieval

open LexemeRow (ofNode)
open Store (lexemeRowsOf replaceLexemes lexemeRowsOfRows)

namespace LexemeRow

/-- The rows of every node stand in the order of their lexemes. -/
def Ascending (rows : List LexemeRow) : Prop :=
  ∀ id, ((ofNode id rows).map LexemeRow.lexeme).Pairwise (· < ·)

theorem ascending_nil : Ascending [] := fun _ => List.Pairwise.nil

/-- Rows that are left stay in order. -/
theorem Ascending.filter {rows : List LexemeRow} (h : Ascending rows) (keep : LexemeRow → Bool) :
    Ascending (rows.filter keep) :=
  fun id => (h id).sublist ((List.filter_sublist.filter _).map _)

/-- The rows of a text stand in the order of its terms. -/
theorem pairwise_lexemeRowsOf (a : Analyzer) (id text : String) :
    ((lexemeRowsOf a id text).map LexemeRow.lexeme).Pairwise (· < ·) := by
  have hkeys : (lexemeRowsOf a id text).map LexemeRow.lexeme =
      (a.documentTerms text).map Prod.fst := by
    rw [lexemeRowsOf, List.map_map]
    rfl
  rw [hkeys]
  exact Analyzer.pairwise_keys_documentTerms a text

/-- The rows of a text in front of those of other nodes. -/
theorem Ascending.append {rows : List LexemeRow} (h : Ascending rows) (a : Analyzer)
    {id : String} (text : String) (hother : ∀ row ∈ rows, row.nodeId ≠ id) :
    Ascending (lexemeRowsOf a id text ++ rows) := by
  intro other
  rw [ofNode_append, ofNode_lexemeRowsOf]
  split
  · rename_i hsame
    have hnone : ofNode other rows = [] :=
      List.filter_eq_nil_iff.mpr fun row hrow => by simpa [← hsame] using hother row hrow
    rw [hnone, List.append_nil]
    exact pairwise_lexemeRowsOf a id text
  · exact h other

/-- Replacing the text of a node puts its rows in order and leaves the others. -/
theorem Ascending.replaceLexemes {rows : List LexemeRow} (h : Ascending rows) (a : Analyzer)
    (node : Node) : Ascending (replaceLexemes a node rows) := by
  intro id
  rw [ofNode_replaceLexemes]
  split
  · exact pairwise_lexemeRowsOf a id node.text
  · exact h id

/-- **A write** keeps the rows in order. -/
theorem Ascending.lexemesAfter {lexemes : List LexemeRow} (h : Ascending lexemes) (a : Analyzer)
    (rows : List DataRow) (w : Write) : Ascending (w.lexemesAfter a rows lexemes) := by
  cases w with
  | delete docId => exact h.filter _
  | add items =>
      rw [Write.lexemesAfter]
      induction items generalizing lexemes with
      | nil => exact h
      | cons item rest ih => exact ih (h.replaceLexemes a item.node)

/-- Every row that an index is filled with is of the node of a data row. -/
theorem exists_of_mem_lexemeRowsOfRows {a : Analyzer} {rows : List DataRow}
    {lexemes : List LexemeRow} (h : lexemeRowsOfRows a rows = .ok lexemes) {l : LexemeRow}
    (hl : l ∈ lexemes) : ∃ row ∈ rows, row.nodeId = .text l.nodeId := by
  induction rows generalizing lexemes with
  | nil =>
      obtain rfl := Except.ok.inj h
      cases hl
  | cons row rest ih =>
      obtain ⟨id, hid, h⟩ := bind_eq_ok_iff.mp h
      obtain ⟨text, -, h⟩ := bind_eq_ok_iff.mp h
      obtain ⟨more, hmore, h⟩ := bind_eq_ok_iff.mp h
      obtain rfl := Except.ok.inj h
      rcases List.mem_append.mp hl with hown | hother
      · rw [nodeId_of_mem_lexemeRowsOf hown]
        exact ⟨row, List.mem_cons_self, Store.eq_text_of_textCell hid⟩
      · obtain ⟨found, hfound, hsame⟩ := ih hmore hother
        exact ⟨found, List.mem_cons_of_mem _ hfound, hsame⟩

/-- **An index that is filled** has its rows in order if no two data rows are of one node. -/
theorem ascending_lexemeRowsOfRows {a : Analyzer} {rows : List DataRow} {lexemes : List LexemeRow}
    (hkeyed : (rows.map DataRow.nodeId).Nodup) (h : lexemeRowsOfRows a rows = .ok lexemes) :
    Ascending lexemes := by
  induction rows generalizing lexemes with
  | nil =>
      obtain rfl := Except.ok.inj h
      exact ascending_nil
  | cons row rest ih =>
      obtain ⟨id, hid, h⟩ := bind_eq_ok_iff.mp h
      obtain ⟨text, -, h⟩ := bind_eq_ok_iff.mp h
      obtain ⟨more, hmore, h⟩ := bind_eq_ok_iff.mp h
      obtain rfl := Except.ok.inj h
      obtain ⟨hnew, hrest⟩ := List.nodup_cons.mp hkeyed
      refine (ih hrest hmore).append a text fun l hl hsame => hnew ?_
      obtain ⟨found, hfound, hfoundId⟩ := exists_of_mem_lexemeRowsOfRows hmore hl
      rw [Store.eq_text_of_textCell hid, ← hsame, ← hfoundId]
      exact List.mem_map_of_mem hfound

end LexemeRow

/-- No two data rows are of one node, and the lexeme rows of a node stand in order. -/
def Table.Arranged : Table → Prop
  | data rows => (rows.map DataRow.nodeId).Nodup
  | lexemes rows => LexemeRow.Ascending rows

/-- **Tables stay arranged** in what stores do: they are filled node after node and changed one node
at a time. -/
theorem Table.lasting_arranged : Table.Lasting Table.Arranged where
  emptyData := List.nodup_nil
  emptyIndex := LexemeRow.ascending_nil
  filled hkeyed hfilled := LexemeRow.ascending_lexemeRowsOfRows hkeyed hfilled
  rowsAfter w _ hkeyed := w.nodup_rowsAfter hkeyed
  lexemesAfter w a rows _ hascending := LexemeRow.Ascending.lexemesAfter hascending a rows w

/-- Every table is arranged. -/
def Database.Arranged (db : Database) : Prop :=
  ∀ name table, db.table? name = some table → table.Arranged

namespace Database

variable {db made : Database}

theorem arranged_empty : Arranged .empty := fun _ _ h => by cases h

theorem Arranged.keyed (h : db.Arranged) : db.Keyed := by
  intro table
  by_cases hrows : ∃ rows, db.table? table = some (.data rows)
  · obtain ⟨rows, hrows⟩ := hrows
    rw [rowsOf_eq hrows]
    exact h table _ hrows
  · rw [rowsOf_eq_nil (not_exists.mp hrows)]
    exact List.nodup_nil

/-- **An edit** leaves tables arranged: it replaces the rows of a data table. -/
theorem Arranged.edit (h : db.Arranged) {table id : String} {column : DataColumn} {cell : Cell}
    {changed : Nat} (hedit : db.edit table id column cell = .ok (changed, made)) :
    made.Arranged := by
  have hkeyed := h.keyed.edit hedit
  obtain ⟨name, rows, next, -, rfl⟩ := edit_ok hedit
  refine Every.put h name ?_
  have hnext := hkeyed name
  rwa [rowsOf_eq (table?_put_self db name _)] at hnext

end Database

/-! ## Sessions -/

/-- **Tables stay arranged**, whatever is done and edited. -/
theorem Session.EditedRun.arranged {start s : Session} (hstart : start.Fresh)
    (run : EditedRun start s) :
    s.Upheld (fun db => WellShaped db ∧ db.Arranged) Equipped :=
  run.every Table.lasting_arranged
    (fun harranged hedit => Database.Arranged.edit harranged hedit) hstart

end HybridRetrieval
