import HybridRetrieval.Proofs.Lexeme.StemBounds
import HybridRetrieval.Proofs.Session.Sharing
/-!
# Where the rows of an index come from

An index gets its rows from `lexemeRowsOf` and from nowhere else: an addition puts the rows of the
new text in the place of the old ones, a deletion only takes rows away, and filling a new index
makes the rows of the stored texts.  So in every state of every run each lexeme row is one of those
that some analyzer makes of some text (`Session.EditedRun.isMadeOfTexts`).  What holds of the
lexemes of all texts therefore holds of all rows there are, and since a stem never destroys a word
none of them is empty (`stem_destroys_nothing`).
-/

namespace HybridRetrieval

open Store (lexemeRowsOf lexemeRowsOfRows)

namespace LexemeRow

/-- The row is one of those that an analyzer makes of a text. -/
def IsOfText (row : LexemeRow) : Prop := ∃ a text, row ∈ lexemeRowsOf a row.nodeId text

/-- What an analyzer makes of a text. -/
theorem isOfText_of_mem {a : Analyzer} {id text : String} {row : LexemeRow}
    (h : row ∈ lexemeRowsOf a id text) : row.IsOfText :=
  ⟨a, text, by rwa [nodeId_of_mem_lexemeRowsOf h]⟩

/-- The lexeme of such a row is not empty. -/
theorem IsOfText.ne_empty {row : LexemeRow} (h : row.IsOfText) : row.lexeme ≠ "" := by
  obtain ⟨a, text, hrow⟩ := h
  obtain ⟨term, hterm, hrow⟩ := List.mem_map.mp hrow
  rw [← hrow]
  exact Analyzer.ne_empty_of_mem_documentTerms hterm

/-- A row of an index that was filled is made of one of the stored texts. -/
theorem isOfText_of_filled {a : Analyzer} {rows : List DataRow} {lexemes : List LexemeRow}
    (h : lexemeRowsOfRows a rows = .ok lexemes) : ∀ l ∈ lexemes, l.IsOfText := by
  induction rows generalizing lexemes with
  | nil =>
      obtain rfl := Except.ok.inj h
      simp
  | cons row rest ih =>
      obtain ⟨id, -, h⟩ := bind_eq_ok_iff.mp h
      obtain ⟨text, -, h⟩ := bind_eq_ok_iff.mp h
      obtain ⟨more, hmore, h⟩ := bind_eq_ok_iff.mp h
      obtain rfl := Except.ok.inj h
      intro l hl
      rcases List.mem_append.mp hl with hown | hother
      · exact isOfText_of_mem hown
      · exact ih hmore l hother

end LexemeRow

/-- **A write** leaves old rows and those of the texts that it adds. -/
theorem Write.isOfText_lexemesAfter {a : Analyzer} {rows : List DataRow} {lexemes : List LexemeRow}
    (w : Write) (h : ∀ l ∈ lexemes, l.IsOfText) :
    ∀ l ∈ w.lexemesAfter a rows lexemes, l.IsOfText := by
  cases w with
  | delete docId => exact fun l hl => h l (List.mem_of_mem_filter hl)
  | add items =>
      rw [Write.lexemesAfter]
      induction items generalizing lexemes with
      | nil => exact h
      | cons item rest ih =>
          refine ih fun l hl => ?_
          rcases List.mem_append.mp hl with hold | hnew
          · exact h l (List.mem_of_mem_filter hold)
          · exact LexemeRow.isOfText_of_mem hnew

/-- Every lexeme row of the table is made of a text. -/
def Table.IsMadeOfTexts : Table → Prop
  | data _ => True
  | lexemes rows => ∀ row ∈ rows, row.IsOfText

/-- **Stores make lexeme rows of texts only.** -/
theorem Table.lasting_isMadeOfTexts : Table.Lasting Table.IsMadeOfTexts where
  emptyData := trivial
  emptyIndex := List.forall_mem_nil _
  filled _ hfilled := LexemeRow.isOfText_of_filled hfilled
  rowsAfter _ _ _ := trivial
  lexemesAfter w _ _ _ hrows := w.isOfText_lexemesAfter hrows

/-! ## Sessions -/

/-- **Lexeme rows are made of texts**, whatever is done and edited: an edit is of a data table. -/
theorem Session.EditedRun.isMadeOfTexts {start s : Session} (hstart : start.Fresh)
    (run : EditedRun start s) {db : Database} (hdb : s.Has db) :
    db.Every Table.IsMadeOfTexts := by
  have hupheld : s.Upheld (fun db => WellShaped db ∧ db.Every Table.IsMadeOfTexts) Equipped := by
    refine run.every Table.lasting_isMadeOfTexts (fun hevery hedit => ?_) hstart
    obtain ⟨name, rows, next, -, rfl⟩ := Database.edit_ok hedit
    exact hevery.put name trivial
  exact (hupheld.good_of_has ⟨wellShaped_empty, Database.every_empty _⟩ hdb).2

/-- **A stem never destroys its word.**  Something is kept of every word, and nothing else is made
of it unless its last letters are replaced by `y`.

So neither analyzer has an empty lexeme for any text, be it counted in a document or searched for,
and no row of any index has one, in any state of a session. -/
theorem stem_destroys_nothing :
    (∀ word : List Char, word ≠ [] → Keeps word (stem word)) ∧
    (∀ (a : Analyzer) (text : String), (∀ x ∈ a.lexemes text, x ≠ "") ∧
      (∀ term ∈ a.documentTerms text, term.1 ≠ "") ∧ ∀ x ∈ a.queryTerms text, x ≠ "") ∧
    ∀ {start s : Session}, start.Fresh → Session.EditedRun start s →
      ∀ db, s.Has db → ∀ name rows, db.table? name = some (.lexemes rows) →
        ∀ row ∈ rows, row.lexeme ≠ "" := by
  refine ⟨fun word => keeps_stem, fun a text => ⟨fun x => Analyzer.ne_empty_of_mem_lexemes,
    fun term => Analyzer.ne_empty_of_mem_documentTerms,
    fun x => Analyzer.ne_empty_of_mem_queryTerms⟩, ?_⟩
  intro start s hstart run db hdb name rows hrows row hrow
  exact LexemeRow.IsOfText.ne_empty (run.isMadeOfTexts hstart hdb name _ hrows row hrow)

/-- Of `ties` the `s` is cut, `stories` gets `y`, `classes` loses two letters and `singing` three;
in a session with these words the index has lexemes, and none of them is empty. -/
theorem stem_destroys_nothing_ties :
    Keeps "ties".toList "tie".toList ∧ Keeps "stories".toList "story".toList ∧
      Keeps "classes".toList "class".toList ∧ Keeps "singing".toList "sing".toList ∧
      ∃ rows, (Database.ofHybrid [.ofText "a" "ties stories classes singing"]).table?
          "data_t_lexemes" = some (.lexemes rows) ∧
        "story" ∈ rows.map LexemeRow.lexeme ∧ ∀ row ∈ rows, row.lexeme ≠ "" := by
  obtain ⟨hkeeps, -, hindexed⟩ := stem_destroys_nothing
  have hdb : (Session.ofHybrid [.ofText "a" "ties stories classes singing"]).connection 0 =
    some (.ofHybrid [.ofText "a" "ties stories classes singing"]) := by rfl
  refine ⟨hkeeps _ (by decide), hkeeps _ (by decide), hkeeps _ (by decide), hkeeps _ (by decide),
    _, rfl, ?_, ?_⟩
  · have hlexeme : "story" ∈ Analyzer.english.lexemes "ties stories classes singing" := by
      decide +kernel
    obtain ⟨term, hterm, hstory⟩ := List.mem_map.mp (Analyzer.mem_keys_documentTerms.mpr hlexeme)
    exact List.mem_map.mpr ⟨⟨"a", term.1, term.2⟩, List.mem_map_of_mem hterm, hstory⟩
  · exact hindexed Session.fresh_empty (Session.anyRun_foldl _ _).edited _ (Or.inr ⟨0, hdb⟩)
      "data_t_lexemes" _ rfl

end HybridRetrieval
