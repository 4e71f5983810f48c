import HybridRetrieval.Database.Basic
import HybridRetrieval.Proofs.Filter.Comparison
import HybridRetrieval.Proofs.Filter.Label
import HybridRetrieval.Proofs.Filter.SearchedText
/-!
# Which entry a filter looks at

A filter looks at one entry of the metadata, the first whose name its key means
(`Metadata.selected?`), and holds if the database finds the value of this entry equal
(`Filter.holds_text_iff`).  A key without a backslash and without NUL looks at its own entry if
there is one (`Metadata.selected?_of_get?`); one with a backslash never does
(`Metadata.name_ne_of_selected?`).

So a filter finds the rows that have its value under its key exactly if the key has neither
(`Filter.findsEntries_iff`).
-/

namespace HybridRetrieval

open Json

theorem Json.Document.ofMembers_eq_map (members : List (String × Json)) :
    ofMembers members = members.map fun m => (Text.escape m.1.toList, ofJson m.2) := by
  induction members with
  | nil => rfl
  | cons member rest ih => rw [ofMembers, ih, List.map_cons]

namespace Metadata

variable {m : Metadata} {key : String}

/-- Whether a key means the name of an entry. -/
def isMeantBy (key : String) (entry : String × Json) : Bool :=
  Label.matchesKey key.toList (Text.escape entry.1.toList)

/-- The first entry whose name a key means. -/
def selected? (m : Metadata) (key : String) : Option (String × Json) :=
  m.members.find? (isMeantBy key)

/-- The member that is compared is that of the entry that is looked at. -/
theorem memberOf?_toDocument (m : Metadata) (key : String) :
    m.toDocument.memberOf? key.toList =
      (m.selected? key).map fun entry => Document.ofJson entry.2 := by
  rw [toDocument, Document.ofJson, Document.memberOf?, Document.ofMembers_eq_map, List.find?_map,
    Option.map_map, selected?]
  rfl

/-- A key comes before the names that begin with it. -/
theorem not_lt_of_takeWhile {name : String}
    (h : name.toList.takeWhile (· ≠ '\x00') = key.toList) : ¬ name < key := by
  have hprefix : key.toList <+: name.toList := h ▸ List.takeWhile_prefix _
  exact fun hless => absurd (String.lt_iff.mp hless) hprefix.le

/-- **A key without a backslash looks at its own entry**, if there is one: the other names that it
means come later. -/
theorem selected?_of_get? (hbackslash : '\\' ∉ key.toList) (hnul : '\x00' ∉ key.toList) {x : Json}
    (h : m.get? key = some x) : m.selected? key = some (key, x) := by
  obtain ⟨before, after, hmembers, -⟩ := List.lookup_eq_some_iff.mp h
  have hordered := m.ordered
  rw [Ordered, hmembers] at hordered
  rw [selected?, hmembers, List.find?_append]
  have hown : isMeantBy key (key, x) = true :=
    (Label.matchesKey_escape_iff hbackslash hnul _).mpr (takeWhile_of_nul_notMem hnul)
  have hfirst : before.find? (isMeantBy key) = none := by
    refine List.find?_eq_none.mpr fun entry hentry hmatch => ?_
    have hless : entry.1 < key :=
      (List.pairwise_append.mp hordered.1).2.2 entry hentry _ List.mem_cons_self
    exact not_lt_of_takeWhile ((Label.matchesKey_escape_iff hbackslash hnul _).mp hmatch) hless
  rw [hfirst, Option.none_or, List.find?_cons_of_pos hown]

/-- **A key with a backslash never looks at its own entry.** -/
theorem name_ne_of_selected? (hbackslash : '\\' ∈ key.toList) (hnul : '\x00' ∉ key.toList)
    {entry : String × Json} (h : m.selected? key = some entry) : entry.1 ≠ key := by
  rintro hname
  have hmeant : isMeantBy key entry = true := List.find?_some h
  refine Label.ne_of_matchesKey hbackslash hmeant ?_
  rw [hname, takeWhile_of_nul_notMem hnul]

end Metadata

/-- **When a filter holds of stored metadata**: its key has no NUL, and the database finds the value
of the entry equal at which the key looks. -/
theorem Filter.holds_text_iff (f : Filter) {m : Metadata}
    (h : m.toDocument.nesting ≤ maxSearchDepth) : f.holds (.text m.text) = .ok true ↔
      '\x00' ∉ f.key.toList ∧ ∃ entry, m.selected? f.key = some entry ∧
        f.value.equals entry.2 = true := by
  rw [f.holds_text h, holdsOf, m.memberOf?_toDocument]
  split
  · rename_i hnul
    simp [hnul]
  · rename_i hnul
    cases m.selected? f.key with
    | none => simp
    | some entry => simp [hnul, FilterValue.equals]

/-! ## Rows that are not missed -/

/-- An item with one entry in its metadata. -/
def Item.withEntry (key : String) (x : Json) : Item :=
  ⟨{ id := "a", text := "", metadata := Metadata.empty.insert key x }, [.one]⟩

namespace Filter

/-- Every row is found by the truth value, the 64-bit integer or the string that its metadata has
under the key: the filter makes a predicate, and this can be evaluated on the row and holds. -/
def FindsEntries (key : String) : Prop :=
  ∀ (item : Item) (x : Json) (v : FilterValue),
    item.node.metadata.toDocument.nesting ≤ maxSearchDepth →
    item.node.metadata.get? key = some x → FilterValue.ofJson? x = some v →
    (∀ y, v ≠ .float y) →
      (∃ predicate, Predicate.render [⟨key, v⟩] "d.metadata" = .ok predicate) ∧
        allHold [⟨key, v⟩] (DataRow.ofItem item).metadata = .ok true

/-- A key that a path can select makes a predicate. -/
theorem exists_render {f : Filter} (hkey : isSupportedKey f.key = true) (column : String) :
    ∃ predicate, Predicate.render [f] column = .ok predicate :=
  ⟨_, by simp [Predicate.render, Predicate.checkKeys, hkey]; rfl⟩

/-- A single filter holds if its evaluation says so. -/
theorem allHold_singleton (f : Filter) (metadata : Cell) :
    allHold [f] metadata = f.holds metadata := by
  rw [allHold]
  cases f.holds metadata with
  | error e => rfl
  | ok b => cases b <;> rfl

/-- **Filters miss no row exactly if the key has neither a backslash nor NUL.** -/
theorem findsEntries_iff {key : String} (hkey : isSupportedKey key = true) :
    FindsEntries key ↔ '\\' ∉ key.toList ∧ '\x00' ∉ key.toList := by
  constructor
  · intro hfinds
    have hdepth : (Item.withEntry key (.bool true)).node.metadata.toDocument.nesting ≤
        maxSearchDepth := show 1 ≤ 1000 by decide
    have hfound := (hfinds (Item.withEntry key (.bool true)) (.bool true) (.bool true) hdepth
      List.lookup_cons_self rfl (fun y hy => FilterValue.noConfusion hy)).2
    rw [allHold_singleton] at hfound
    obtain ⟨hnul, entry, hselected, -⟩ := (holds_text_iff _ hdepth).mp hfound
    refine ⟨fun hbackslash => ?_, hnul⟩
    have hentry : entry ∈ [(key, Json.bool true)] := List.mem_of_find?_eq_some hselected
    rw [List.mem_singleton] at hentry
    exact Metadata.name_ne_of_selected? hbackslash hnul hselected (congrArg Prod.fst hentry)
  · rintro ⟨hbackslash, hnul⟩ item x v hdepth hget hvalue hfloat
    refine ⟨exists_render hkey _, ?_⟩
    rw [allHold_singleton]
    exact (holds_text_iff ⟨key, v⟩ hdepth).mpr ⟨hnul, (key, x),
      Metadata.selected?_of_get? hbackslash hnul hget, FilterValue.equals_of_ofJson? hvalue hfloat⟩

/-- A plain key. -/
theorem findsEntries_tag : isSupportedKey "tag" = true ∧ FindsEntries "tag" :=
  ⟨by decide, (findsEntries_iff (by decide)).mpr (by decide)⟩

/-- A key that a predicate is made for although the backslash in it is not escaped: a row that has
the value under this key is not found. -/
theorem not_findsEntries_backslash : isSupportedKey "a\\b" = true ∧
    (Item.withEntry "a\\b" (.bool true)).node.metadata.get? "a\\b" = some (.bool true) ∧
    allHold [⟨"a\\b", .bool true⟩]
      (DataRow.ofItem (Item.withEntry "a\\b" (.bool true))).metadata = .ok false ∧
    ¬ FindsEntries "a\\b" :=
  ⟨by decide, by rfl, by decide +kernel,
    fun h => absurd
      (h (Item.withEntry "a\\b" (.bool true)) _ _ (by decide +kernel) rfl rfl (by simp)).2
      (by decide +kernel)⟩

end Filter

end HybridRetrieval
