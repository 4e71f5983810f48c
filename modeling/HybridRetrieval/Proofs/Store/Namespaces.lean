import HybridRetrieval.Proofs.Store.Served
import HybridRetrieval.Proofs.Store.WellKept
/-!
# Two logical tables in one database

What belongs to a logical table is found by its name, and the name of an index table is that of the
data table with a suffix.  So two logical tables get in each other's way exactly if one is called
like the other with that suffix: then the data table of the one stands in the place of the index
table of the other.

An opening touches nothing but what belongs to its own logical table (`openOn_beside`).  Hence two
openings one after the other go well unless the second finds the first one's data in the place of
its index, or its index in the place of its data (`openBoth_iff`); and all go well exactly if the
names are apart (`separate_iff`).
-/

namespace HybridRetrieval

namespace TableNames

/-- The tables of a logical name. -/
def tables (names : TableNames) : List String := [names.data, names.lexemes]

end TableNames

/-! ## What an opening touches -/

/-- Nothing differs but what belongs to the logical table. -/
structure Beside (names : TableNames) (db made : Database) : Prop where
  tables : ∀ name, name ≠ names.data → name ≠ names.lexemes → made.table? name = db.table? name
  indexes : ∀ name ∈ made.indexes,
    name ∈ db.indexes ∨ name = names.documentIndex ∨ name = names.lexemeIndex

namespace Beside

variable {names : TableNames} {db mid made : Database}

theorem refl (names : TableNames) (db : Database) : Beside names db db :=
  ⟨fun _ _ _ => rfl, fun _ h => Or.inl h⟩

theorem trans (h : Beside names db mid) (h' : Beside names mid made) : Beside names db made where
  tables name hdata hlexemes := (h'.tables name hdata hlexemes).trans (h.tables name hdata hlexemes)
  indexes name hname := (h'.indexes name hname).elim (h.indexes name) Or.inr

/-- Putting a table of the logical table. -/
theorem put {name : String} (hname : name = names.data ∨ name = names.lexemes) (table : Table) :
    Beside names db (db.put name table) where
  tables other hdata hlexemes := by
    refine Database.table?_put_of_ne _ _ ?_
    rcases hname with rfl | rfl
    exacts [hdata, hlexemes]
  indexes _ h := Or.inl h

/-- Adding an index of the logical table. -/
theorem addIndex {name : String} (hname : name = names.documentIndex ∨ name = names.lexemeIndex) :
    Beside names db { db with indexes := db.indexes ++ [name] } where
  tables _ _ _ := rfl
  indexes other hother := by
    rcases List.mem_append.mp hother with hold | hnew
    · exact Or.inl hold
    · exact Or.inr (List.mem_singleton.mp hnew ▸ hname)

/-- One part of the schema. -/
theorem part {part : SchemaPart} (hmade : part.Made names db made) : Beside names db made := by
  cases hmade with
  | present => exact .refl names db
  | dataTable => exact .put (Or.inl rfl) _
  | lexemeTable => exact .put (Or.inr rfl) _
  | documentIndex => exact .addIndex (Or.inl rfl)
  | lexemeIndex => exact .addIndex (Or.inr rfl)

end Beside

/-- **An opening touches nothing but what belongs to its logical table.** -/
theorem openOn_beside {p : StoreParams} {names : TableNames}
    (hname : TableNames.ofName p.tableName = .ok names) (db : Database) :
    Beside names db (Store.openOn p db).2 :=
  openOn_keeps hname db (fun hpart hmid => hmid.trans (.part hpart))
    (fun _ _ _ hmade => hmade.trans (.put (Or.inr rfl) _)) (.refl names db)

/-- No opening replaces a table; an index is filled only where there was none. -/
theorem table?_of_openOn {q : StoreParams} {names : TableNames}
    (hname : TableNames.ofName q.tableName = .ok names) {db : Database} {name : String}
    {table : Table} (h : db.table? name = some table) :
    (Store.openOn q db).2.table? name = some table := by
  refine openOn_keeps hname db (P := fun made => made.table? name = some table)
    (fun hpart hmid => hpart.table? hmid) ?_ h
  intro habsent made rows hmade
  rw [Database.table?_put_of_ne, hmade]
  rintro rfl
  rw [Store.isIndexed, h] at habsent
  cases habsent

/-- A new index of lexeme rows needs a lexeme table. -/
theorem isLexemes_of_makeAll {names : TableNames} {db made : Database} {parts : List SchemaPart}
    (hmake : SchemaPart.makeAll names parts db = (.ok (), made)) (hpart : .lexemeIndex ∈ parts)
    (hnew : names.lexemeIndex ∉ db.indexes) {table : Table}
    (htable : db.table? names.lexemes = some table) : ∃ rows, table = .lexemes rows := by
  induction parts generalizing db with
  | nil => cases hpart
  | cons part rest ih =>
      obtain ⟨next, hfirst, hrest⟩ := SchemaPart.makeAll_cons_ok hmake
      have hnext := hfirst.table? htable
      -- no other part makes an index of that name
      have hlater : part ≠ .lexemeIndex → .lexemeIndex ∈ rest := fun hne =>
        (List.mem_cons.mp hpart).resolve_left hne.symm
      cases hfirst with
      | present present =>
          refine ih hrest (hlater ?_) hnew hnext
          rintro rfl
          exact hnew (List.contains_iff_mem.mp present)
      | dataTable | lexemeTable => exact ih hrest (hlater (by simp)) hnew hnext
      | documentIndex =>
          refine ih hrest (hlater (by simp)) (fun hmem => ?_) hnext
          rcases List.mem_append.mp hmem with hold | hadded
          · exact hnew hold
          · exact names.documentIndex_ne_lexemeIndex names (List.mem_singleton.mp hadded).symm
      | lexemeIndex _ hlexemes =>
          rw [htable] at hlexemes
          exact ⟨_, Option.some.inj hlexemes⟩

/-- A store that opens on an index without an index by lexeme finds a lexeme table there. -/
theorem isLexemes_of_openOn {q : StoreParams} {names : TableNames}
    (hname : TableNames.ofName q.tableName = .ok names) {db : Database} {store : Store}
    (hstore : (Store.openOn q db).1 = .ok store) (hnew : names.lexemeIndex ∉ db.indexes)
    {table : Table} (htable : db.table? names.lexemes = some table) :
    ∃ rows, table = .lexemes rows := by
  have hindexed : Store.isIndexed names db = true := by rw [Store.isIndexed, htable]; rfl
  have hopening := opening_of_openOn hname db
  generalize Store.openOn q db = done at hopening hstore
  cases hopening with
  | stopped | unfilled => cases hstore
  | opened schema =>
      rw [hindexed, Bool.or_true] at schema
      exact isLexemes_of_makeAll schema (by simp [schemaParts]) hnew htable
  | filled _ _ absent =>
      rw [hindexed] at absent
      cases absent

/-! ## Two openings -/

/-- Both can be opened, the first on an empty database and the second after it, and each is hybrid
exactly if it is asked to be. -/
def OpenBoth (p q : StoreParams) : Prop :=
  ∃ first db second made, Store.openOn p .empty = (.ok first, db) ∧
    first.hybrid = p.hybridSearch ∧ Store.openOn q db = (.ok second, made) ∧
      second.hybrid = q.hybridSearch

section Openings

variable {p q : StoreParams} {x y : TableNames} (hx : TableNames.ofName p.tableName = .ok x)
  (hy : TableNames.ofName q.tableName = .ok y) (hne : p.tableName.toLower ≠ q.tableName.toLower)
include hx

/-- The first opening: a data table, and an index if it is asked for. -/
theorem openOn_empty : ∃ first db, Store.openOn p .empty = (.ok first, db) ∧
    first.hybrid = p.hybridSearch ∧ db.table? x.data = some (.data []) ∧
      db.table? x.lexemes = if p.hybridSearch then some (.lexemes []) else none := by
  obtain ⟨db, hopen, hstocked, hindex⟩ :=
    openOn_of_holds ⟨_, hx⟩ (Or.inr ⟨vacant_empty x, rfl⟩) hx
  refine ⟨_, db, hopen, ?_, hstocked.data, hindex⟩
  simp [Store.hybrid, Store.isIndexed]

include hy hne

/-- If neither finds the other in its place, the database is vacant for the second. -/
theorem vacant_of_openOn_empty (hdata : x.data ≠ y.lexemes)
    (hlexemes : p.hybridSearch = true → y.data ≠ x.lexemes) :
    Vacant y (Store.openOn p .empty).2 := by
  have hx' : x.Accepted := ⟨_, hx⟩
  have hy' : y.Accepted := ⟨_, hy⟩
  have hbeside := openOn_beside hx .empty
  obtain ⟨first, db, hopen, -, -, hindex⟩ := openOn_empty hx
  rw [hopen] at hbeside ⊢
  -- tables and indexes start with different letters
  have hindexes : ∀ {name : String}, name.toList.head? = some 'd' → name ∉ db.indexes := by
    intro name hhead hmem
    rcases hbeside.indexes name hmem with hold | rfl | rfl
    · cases hold
    · rw [x.head?_documentIndex] at hhead
      cases hhead
    · rw [x.head?_lexemeIndex] at hhead
      cases hhead
  have htables : ∀ {name : String}, name.toList.head? = some 'i' → db.table? name = none := by
    intro name hhead
    refine hbeside.tables name ?_ ?_
    · rintro rfl
      rw [hx'.head?.1] at hhead
      cases hhead
    · rintro rfl
      rw [hx'.head?.2] at hhead
      cases hhead
  refine ⟨⟨hindexes hy'.head?.1, hindexes hy'.head?.2, htables y.head?_documentIndex,
    htables y.head?_lexemeIndex⟩, ?_, ?_⟩
  · have hdiffer : y.data ≠ x.data := fun heq =>
      hne ((TableNames.data_eq_data_iff hx hy).mp heq.symm)
    by_cases heq : y.data = x.lexemes
    · rw [heq, hindex, if_neg fun hhybrid => hlexemes hhybrid heq]
    · exact hbeside.tables _ hdiffer heq
  · refine hbeside.tables _ hdata.symm fun heq => ?_
    exact hne ((TableNames.lexemes_eq_lexemes_iff hx hy).mp heq.symm)

/-- **Two openings** go well exactly if the second does not find the data of the first in the place
of its index, nor the index of the first in the place of its data. -/
theorem openBoth_iff : OpenBoth p q ↔
    x.data ≠ y.lexemes ∧ (p.hybridSearch = true → y.data ≠ x.lexemes) := by
  obtain ⟨first, db, hopen, hhybrid, hdata, hindex⟩ := openOn_empty hx
  constructor
  · rintro ⟨first', db', second, made, hopen', -, hsecond, -⟩
    rw [hopen] at hopen'
    obtain ⟨-, rfl⟩ := Prod.mk.inj hopen'
    constructor
    · -- the data of the first would be taken for an index that only lacks an index of its own
      intro heq
      rw [heq] at hdata
      have hnew : y.lexemeIndex ∉ db.indexes := by
        intro hmem
        have hbeside := openOn_beside hx .empty
        rw [hopen] at hbeside
        rcases hbeside.indexes _ hmem with hold | hsame | hsame
        · cases hold
        · exact x.documentIndex_ne_lexemeIndex y hsame.symm
        · exact hne ((TableNames.lexemes_eq_lexemes_iff hx hy).mp
            (TableNames.lexemes_eq_of_lexemeIndex hsame.symm))
      obtain ⟨rows, hrows⟩ := isLexemes_of_openOn hy (congrArg Prod.fst hsecond) hnew hdata
      cases hrows
    · -- the index of the first would have to become a data table
      intro hybrid heq
      rw [if_pos hybrid, ← heq] at hindex
      have hkept := table?_of_openOn hy hindex
      have hwell := (wellKept_empty.openOn p).1
      rw [hopen] at hwell
      obtain ⟨-, -, hopened⟩ := hwell.openOn q
      rw [hsecond] at hkept hopened
      obtain ⟨rows, hrows⟩ := hopened second rfl
      rw [(documentIndex_mem_of_openOn hy db (congrArg Prod.fst hsecond)).1, hkept] at hrows
      cases hrows
  · rintro ⟨hplace, hplace'⟩
    have hvacant := vacant_of_openOn_empty hx hy hne hplace hplace'
    rw [hopen] at hvacant
    obtain ⟨made, hsecond, -, -⟩ := openOn_of_holds ⟨_, hy⟩ (Or.inr ⟨hvacant, rfl⟩) hy
    refine ⟨first, db, _, made, hopen, hhybrid, hsecond, ?_⟩
    simp [Store.hybrid, Store.isIndexed, hvacant.lexemes]

end Openings

/-- Two logical tables have no table in common exactly if neither has its data in the place of the
index of the other. -/
theorem disjoint_tables_iff {a b : String} {x y : TableNames} (ha : TableNames.ofName a = .ok x)
    (hb : TableNames.ofName b = .ok y) (hne : a.toLower ≠ b.toLower) :
    x.tables.Disjoint y.tables ↔ x.data ≠ y.lexemes ∧ y.data ≠ x.lexemes := by
  have hdata := mt (TableNames.data_eq_data_iff ha hb).mp hne
  have hlexemes := mt (TableNames.lexemes_eq_lexemes_iff ha hb).mp hne
  simp only [TableNames.tables, List.disjoint_cons_left, List.mem_cons, List.not_mem_nil, or_false,
    not_or, hdata, hlexemes, List.disjoint_nil_left, ne_eq, not_false_eq_true, true_and, and_true]
  exact and_congr_right fun _ => not_congr eq_comm

/-- **Logical tables are separate exactly if neither is called like the index table of the other.**
Then, and only then, they have no table in common; and then, and only then, both can be opened in
either order, each hybrid or not as it is asked to be. -/
theorem separate_iff {a b : String} {x y : TableNames} (ha : TableNames.ofName a = .ok x)
    (hb : TableNames.ofName b = .ok y) (hne : a.toLower ≠ b.toLower) :
    (x.tables.Disjoint y.tables ↔
        a.toLower ≠ b.toLower ++ "_lexemes" ∧ b.toLower ≠ a.toLower ++ "_lexemes") ∧
      ((∀ p q : StoreParams, p.tableName = a → q.tableName = b → OpenBoth p q ∧ OpenBoth q p) ↔
        a.toLower ≠ b.toLower ++ "_lexemes" ∧ b.toLower ≠ a.toLower ++ "_lexemes") := by
  rw [Ne, Ne, ← TableNames.data_eq_lexemes_iff ha hb, ← TableNames.data_eq_lexemes_iff hb ha]
  refine ⟨disjoint_tables_iff ha hb hne, ?_, ?_⟩
  · intro h
    obtain ⟨hxy, hyx⟩ := h (.inMemory a) (.inMemory b) rfl rfl
    exact ⟨((openBoth_iff ha hb hne).mp hxy).1, ((openBoth_iff hb ha hne.symm).mp hyx).1⟩
  · rintro ⟨hxy, hyx⟩ p q rfl rfl
    exact ⟨(openBoth_iff ha hb hne).mpr ⟨hxy, fun _ => hyx⟩,
      (openBoth_iff hb ha hne.symm).mpr ⟨hyx, fun _ => hxy⟩⟩

/-- Two names that are apart: a hybrid table of documents beside one of notes that is not. -/
theorem separate_docs_notes :
    OpenBoth { StoreParams.inMemory "Docs" with hybridSearch := true } (.inMemory "notes") := by
  have hdocs := TableNames.toLower_eq "Docs"
  have hnotes := TableNames.toLower_eq "notes"
  have hapart := (separate_iff (a := "Docs") (b := "notes") (by rfl) (by rfl)
    (by rw [hdocs, hnotes]; decide)).2
  rw [hdocs, hnotes] at hapart
  exact (hapart.mpr ⟨by decide, by decide⟩ _ _ rfl rfl).1

/-- **A name with the suffix.**  After `x_lexemes` has been opened, `x` cannot be: the data table of
the one would have to be the index of the other. -/
theorem not_separate_suffix :
    TableNames.ofName "x_lexemes" = .ok ⟨"data_x_lexemes", "data_x_lexemes_lexemes"⟩ ∧
      TableNames.ofName "x" = .ok ⟨"data_x", "data_x_lexemes"⟩ ∧
      "x_lexemes".toLower ≠ "x".toLower ∧
      ∃ first db, Store.openOn (.inMemory "x_lexemes") .empty = (.ok first, db) ∧
        (Store.openOn (.inMemory "x") db).1 = .error .storage := by
  refine ⟨by rfl, by rfl, ?_, _, _, by rfl, by rfl⟩
  rw [TableNames.toLower_eq, TableNames.toLower_eq]
  decide

end HybridRetrieval
