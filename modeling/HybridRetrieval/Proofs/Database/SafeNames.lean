import HybridRetrieval.Database.Schema
import HybridRetrieval.Proofs.Database.Names
import HybridRetrieval.Proofs.Text.LowerCase
import Mathlib.Data.List.Forall2
/-!
# Names that are safe in statements

Statements are put together from texts, and the names of tables are parts of them that come from a
caller.  What is accepted as a name is made of few characters (`isTableNameChar_iff`), and the names
that come of it of fewer still, for the capitals are gone (`TableNames.isSmallNameChar_of_mem`).
Capitals are all that is lost: two accepted names have the same tables exactly if they differ in the
case of letters only (`TableNames.eq_iff_sameLetters`).

A statement is a text with places that are left open for the names of the two tables
(`SchemaPart.template`), and filling the places is all that a name does to it
(`SchemaPart.statement_eq_fill`).
-/

namespace HybridRetrieval

/-! ## Characters -/

/-- The characters of logical names: the letters and digits of ASCII, and the underscore. -/
def IsNameChar (c : Char) : Prop :=
  ('A' ≤ c ∧ c ≤ 'Z') ∨ ('a' ≤ c ∧ c ≤ 'z') ∨ ('0' ≤ c ∧ c ≤ '9') ∨ c = '_'

/-- The characters of logical names that are no capitals. -/
def IsSmallNameChar (c : Char) : Prop :=
  ('a' ≤ c ∧ c ≤ 'z') ∨ ('0' ≤ c ∧ c ≤ '9') ∨ c = '_'

/-- The characters are the same, or one is a capital of ASCII and the other its small letter. -/
def SameLetter (c d : Char) : Prop :=
  c = d ∨ (('A' ≤ c ∧ c ≤ 'Z') ∧ d.toNat = c.toNat + 32) ∨
    (('A' ≤ d ∧ d ≤ 'Z') ∧ c.toNat = d.toNat + 32)

instance (c : Char) : Decidable (IsNameChar c) :=
  inferInstanceAs (Decidable (_ ∨ _ ∨ _ ∨ _))

instance (c : Char) : Decidable (IsSmallNameChar c) :=
  inferInstanceAs (Decidable (_ ∨ _ ∨ _))

instance (c d : Char) : Decidable (SameLetter c d) :=
  inferInstanceAs (Decidable (_ ∨ _ ∨ _))

theorem isTableNameChar_iff {c : Char} : isTableNameChar c = true ↔ IsNameChar c := by
  have halphanum : c.isAlphanum = true ↔ c.isAlpha = true ∨ c.isDigit = true :=
    Bool.or_eq_true_iff
  rw [isTableNameChar, Bool.or_eq_true, halphanum, isAlpha_iff_toNat, Char.isDigit_iff_toNat,
    beq_iff_eq, or_assoc, or_assoc]
  exact Iff.rfl

/-- Characters are ordered by their codes. -/
theorem le_iff_toNat_le {c d : Char} : c ≤ d ↔ c.toNat ≤ d.toNat := UInt32.le_iff_toNat_le

/-- The small letter of a capital has a code that is larger by 32. -/
theorem toNat_toLower (c : Char) :
    c.toLower.toNat = if 'A' ≤ c ∧ c ≤ 'Z' then c.toNat + 32 else c.toNat := by
  by_cases h : 'A' ≤ c ∧ c ≤ 'Z'
  · have hcode : c.toNat ≤ 90 := h.2
    have hlower : c.toLower.val = c.val + 32 := congrArg Char.val (dif_pos h)
    have hsum : c.toLower.toNat = (c.toNat + 32) % 2 ^ 32 :=
      (congrArg UInt32.toNat hlower).trans (UInt32.toNat_add c.val 32)
    rw [if_pos h, hsum, Nat.mod_eq_of_lt (by omega)]
  · have hlower : c.toLower = c := dif_neg h
    rw [if_neg h, hlower]

/-- A character of logical names is put into lower case as one that is no capital. -/
theorem isSmallNameChar_toLower {c : Char} (h : IsNameChar c) : IsSmallNameChar c.toLower := by
  have hcode := toNat_toLower c
  simp only [IsNameChar, IsSmallNameChar, le_iff_toNat_le, ← Char.toNat_inj, Char.reduceToNat]
    at h hcode ⊢
  split at hcode <;> omega

/-- **Characters have one lower case** exactly if they differ in case at most. -/
theorem toLower_eq_toLower_iff {c d : Char} : c.toLower = d.toLower ↔ SameLetter c d := by
  simp only [SameLetter, ← Char.toNat_inj, toNat_toLower, le_iff_toNat_le, Char.reduceToNat]
  split <;> split <;> omega

/-! ## Accepted names -/

namespace TableNames

/-- **What is accepted**: names that are not empty and have no other characters. -/
theorem exists_ofName_eq_ok_iff {name : String} :
    (∃ names, ofName name = .ok names) ↔ name ≠ "" ∧ ∀ c ∈ name.toList, IsNameChar c := by
  have hempty : name.toList ≠ [] ↔ name ≠ "" := not_congr String.toList_eq_nil_iff
  simp only [← hempty, ← isTableNameChar_iff, ← List.all_eq_true]
  unfold ofName
  split
  · rename_i h
    exact iff_of_true ⟨_, rfl⟩ h
  · rename_i h
    exact iff_of_false (by simp) h

/-- A name that is not accepted is reported. -/
theorem ofName_eq_error {name : String} {e : Error} (h : ofName name = .error e) :
    e = .invalidTableName name := by
  unfold ofName at h
  split at h
  · cases h
  · exact (Except.error.inj h).symm

/-- **The tables of an accepted name** have no other characters than small letters, digits and the
underscore. -/
theorem isSmallNameChar_of_mem {name : String} {names : TableNames} (h : ofName name = .ok names)
    {c : Char} (hc : c ∈ names.data.toList ++ names.lexemes.toList) : IsSmallNameChar c := by
  obtain ⟨-, hname⟩ := exists_ofName_eq_ok_iff.mp ⟨names, h⟩
  obtain ⟨hdata, hlexemes⟩ := ofName_eq_ok h
  have hfront : ∀ c ∈ "data_".toList, IsSmallNameChar c :=
    List.forall_iff_forall_mem.mp (by decide)
  have hsuffix : ∀ c ∈ "_lexemes".toList, IsSmallNameChar c :=
    List.forall_iff_forall_mem.mp (by decide)
  have hsmall : ∀ c ∈ name.toLower.toList, IsSmallNameChar c := by
    rw [toLower_eq, String.toList_ofList]
    exact List.forall_mem_map.mpr fun c hc => isSmallNameChar_toLower (hname c hc)
  have hall : ∀ c ∈ names.data.toList, IsSmallNameChar c := by
    rw [hdata, String.toList_append]
    exact List.forall_mem_append.mpr ⟨hfront, hsmall⟩
  rw [hlexemes, String.toList_append, ← List.append_assoc] at hc
  exact List.forall_mem_append.mpr ⟨List.forall_mem_append.mpr ⟨hall, hall⟩, hsuffix⟩ c hc

/-- **Two accepted names have the same tables** exactly if they differ in the case of letters
only. -/
theorem eq_iff_sameLetters {a b : String} {x y : TableNames} (ha : ofName a = .ok x)
    (hb : ofName b = .ok y) : x = y ↔ List.Forall₂ SameLetter a.toList b.toList := by
  have hdata : x = y ↔ x.data = y.data := by
    refine ⟨congrArg data, fun h => ?_⟩
    have hlexemes : x.lexemes = y.lexemes := by
      rw [(ofName_eq_ok ha).2, (ofName_eq_ok hb).2, h]
    cases x
    cases y
    exact congrArg₂ mk h hlexemes
  rw [hdata, data_eq_data_iff ha hb, toLower_eq, toLower_eq, String.ofList_inj,
    ← List.forall₂_eq_eq_eq, List.forall₂_map_left_iff, List.forall₂_map_right_iff]
  simp only [toLower_eq_toLower_iff]

end TableNames

/-! ## Statements -/

/-- A piece of a statement: a text, or a place for the name of one of the two tables. -/
inductive StatementPiece where
  | text (s : String)
  | data
  | lexemes
deriving DecidableEq, Repr

namespace StatementPiece

/-- What stands in the place of a piece for the tables of a name. -/
def filled (names : TableNames) : StatementPiece → String
  | text s => s
  | data => names.data
  | lexemes => names.lexemes

/-- The statement for the tables of a name. -/
def fill (names : TableNames) (pieces : List StatementPiece) : String :=
  String.join (pieces.map (filled names))

end StatementPiece

open StatementPiece in
/-- The statement that makes a part, with places for the names. -/
def SchemaPart.template : SchemaPart → List StatementPiece
  | dataTable =>
    [text "\nCREATE TABLE IF NOT EXISTS ", data, text " (\n",
      text "    id INTEGER PRIMARY KEY AUTOINCREMENT,\n",
      text "    node_id TEXT NOT NULL UNIQUE,\n",
      text "    text TEXT NOT NULL,\n",
      text "    metadata TEXT NOT NULL DEFAULT '\x7b\x7d',\n",
      text "    relationships TEXT NOT NULL DEFAULT '\x7b\x7d',\n",
      text "    ref_doc_id TEXT,\n",
      text "    embedding BLOB NOT NULL\n",
      text ")\n"]
  | lexemeTable =>
    [text "\nCREATE TABLE IF NOT EXISTS ", lexemes, text " (\n",
      text "    node_id TEXT NOT NULL,\n",
      text "    lexeme TEXT NOT NULL,\n",
      text "    frequency INTEGER NOT NULL,\n",
      text "    PRIMARY KEY (node_id, lexeme)\n",
      text ")\n"]
  | documentIndex =>
    [text "CREATE INDEX IF NOT EXISTS ", text "idx_", data, text "_ref_doc", text " ON ", data,
      text "(ref_doc_id)"]
  | lexemeIndex =>
    [text "CREATE INDEX IF NOT EXISTS ", text "idx_", lexemes, text "_lexeme", text " ON ", lexemes,
      text "(lexeme)"]

/-- **A statement is its template with the names filled in.** -/
theorem SchemaPart.statement_eq_fill (part : SchemaPart) (names : TableNames) :
    part.statement names = StatementPiece.fill names part.template := by
  unfold statement template StatementPiece.fill
  cases part <;>
    simp only [StatementPiece.filled, List.map_cons, List.map_nil, String.join_cons,
      String.join_nil, String.append_assoc, String.append_empty, TableNames.documentIndex,
      TableNames.lexemeIndex]

/-- **Names of tables are safe in statements.**  A name is accepted exactly if it is not empty and
has no other characters than the letters and digits of ASCII and the underscore; any other is
reported.  The tables of an accepted name have no capitals either, and of two accepted names they
are the same exactly if the names differ in the case of letters only.  All that these names do to
the statements of the schema is to fill the places that their templates leave open, so the
statements for two names differ nowhere else. -/
theorem TableNames.safe_in_statements (name : String) :
    ((∃ names, ofName name = .ok names) ↔ name ≠ "" ∧ ∀ c ∈ name.toList, IsNameChar c) ∧
    (∀ e, ofName name = .error e → e = .invalidTableName name) ∧
    ∀ names, ofName name = .ok names →
      (∀ c ∈ names.data.toList ++ names.lexemes.toList, IsSmallNameChar c) ∧
      (∀ other others, ofName other = .ok others →
        (names = others ↔ List.Forall₂ SameLetter name.toList other.toList)) ∧
      ∀ hybrid, names.schemaStatements hybrid =
        (schemaParts hybrid).map fun part => StatementPiece.fill names part.template :=
  ⟨exists_ofName_eq_ok_iff, fun _ => ofName_eq_error, fun names h =>
    ⟨fun _ => isSmallNameChar_of_mem h, fun _ _ => eq_iff_sameLetters h, fun _ =>
      List.map_congr_left fun part _ => part.statement_eq_fill names⟩⟩

/-- A name in capitals is one for the same tables, and one with a line break at its end is
refused. -/
theorem TableNames.safe_in_statements_docs :
    ∃ x y, ofName "Docs" = .ok x ∧ ofName "DOCS" = .ok y ∧ x = y ∧
      (x.schemaStatements true)[2]? =
        some "CREATE INDEX IF NOT EXISTS idx_data_docs_ref_doc ON data_docs(ref_doc_id)" ∧
      ofName "Docs\n" = .error (.invalidTableName "Docs\n") := by
  obtain ⟨-, -, hdocs⟩ := safe_in_statements "Docs"
  obtain ⟨-, hsame, hstatements⟩ := hdocs _ rfl
  refine ⟨_, _, rfl, rfl, (hsame "DOCS" _ rfl).mpr (by decide), ?_, ?_⟩
  · rw [hstatements true]
    decide +kernel
  · obtain ⟨haccepted, hrefused, -⟩ := safe_in_statements "Docs\n"
    cases h : ofName "Docs\n" with
    | error e => rw [hrefused e h]
    | ok names =>
        have hbreak := (haccepted.mp ⟨names, h⟩).2 '\n' (by decide)
        exact absurd hbreak (by decide)

end HybridRetrieval
