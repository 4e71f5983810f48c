import HybridRetrieval.Proofs.Filter.Selection
import HybridRetrieval.Proofs.Text.LowerCase
/-!
# Words as values of filters

A filter is given as a key, an equals sign and a value, and the value is tried as a number before it
is taken for a text.  Numbers are written with a digit, and no letter is one.  But three words are
read as floating-point numbers too, in any case (`SpellsNumber`), and none of these numbers is
finite.

Only a text equals a string (`FilterValue.equals_string_iff`).  So the rows that have a string under
the key are found exactly if the argument is taken for a text and the key looks at its own entry
(`Filter.findsWord_iff`), and a filter that is given one of the three words misses all rows that
have it (`Filter.word_filter`).
-/

namespace HybridRetrieval

open Json

/-- A text of letters of ASCII, of which there is at least one. -/
structure IsWordOfLetters (word : String) : Prop where
  nonempty : word ≠ ""
  letters : ∀ c ∈ word.toList, c.isAlpha = true

/-- The word spells a floating-point number that is infinite or none. -/
def SpellsNumber (word : String) : Prop :=
  String.ofList (word.toList.map Char.toLower) ∈ ["inf", "infinity", "nan"]

instance (word : String) : Decidable (IsWordOfLetters word) :=
  decidable_of_iff (word ≠ "" ∧ word.toList.all Char.isAlpha = true)
    ⟨fun ⟨h, h'⟩ => ⟨h, List.all_eq_true.mp h'⟩, fun ⟨h, h'⟩ => ⟨h, List.all_eq_true.mpr h'⟩⟩

instance (word : String) : Decidable (SpellsNumber word) :=
  inferInstanceAs (Decidable (_ ∈ _))

/-! ## Letters are no numbers -/

section Letters

variable {cs : List Char} (h : ∀ c ∈ cs, c.isAlpha = true)
include h

/-- What is no letter is not among letters. -/
theorem not_mem_of_letters {c : Char} (hc : c.isAlpha = false) : c ∉ cs := fun hmem => by
  rw [h c hmem] at hc
  cases hc

/-- Letters have no sign before them. -/
theorem splitSign_of_letters : Numeral.splitSign cs = (false, cs) := by
  unfold Numeral.splitSign
  split
  · exact absurd List.mem_cons_self (not_mem_of_letters h (by decide))
  · exact absurd List.mem_cons_self (not_mem_of_letters h (by decide))
  · rfl

/-- No letter is a digit. -/
theorem not_isDigit_of_letters {c : Char} (hc : c ∈ cs) : ¬ c.isDigit = true := by
  have hletter := isAlpha_iff_toNat.mp (h c hc)
  rw [Char.isDigit_iff_toNat]
  simp only [Char.reduceToNat] at hletter ⊢
  omega

/-- Letters are no integer. -/
theorem readInt?_of_letters : readInt? cs = none := by
  rw [readInt?, Numeral.readExponent?, splitSign_of_letters h]
  refine if_neg ?_
  rintro ⟨hne, hall⟩
  obtain ⟨c, rest, rfl⟩ := List.exists_cons_of_ne_nil hne
  exact not_isDigit_of_letters h List.mem_cons_self (List.all_eq_true.mp hall c List.mem_cons_self)

/-- Letters are no decimal. -/
theorem readDecimal?_of_letters : Numeral.readDecimal? cs = none := by
  cases cs with
  | nil => rfl
  | cons c rest =>
      have hdigit : ¬ c.isDigit = true := not_isDigit_of_letters h List.mem_cons_self
      have hpoint : c ≠ '.' := by
        rintro rfl
        exact not_mem_of_letters h (by decide) List.mem_cons_self
      rw [Numeral.readDecimal?, List.takeWhile_cons_of_neg hdigit,
        List.dropWhile_cons_of_neg hdigit]
      simp [hpoint]

/-- Letters that spell a number spell one that is not finite. -/
theorem read?_of_spellsNumber (hspells : SpellsNumber (String.ofList cs)) :
    ∃ x, Numeral.read? cs = some x ∧ x.toDouble.isFinite = false := by
  rw [SpellsNumber, String.toList_ofList] at hspells
  rw [Numeral.read?, splitSign_of_letters h, Numeral.readMagnitude?]
  simp only [List.mem_cons, List.not_mem_nil, or_false] at hspells
  by_cases hnan : String.ofList (cs.map Char.toLower) = "nan"
  · refine ⟨⟨false, .nan⟩, ?_, by decide⟩
    simp [hnan]
  · refine ⟨⟨false, .infinity⟩, ?_, by decide⟩
    rw [if_pos (hspells.imp_right fun h => h.resolve_right hnan)]
    rfl

/-- All other letters spell none. -/
theorem read?_of_not_spellsNumber (hspells : ¬ SpellsNumber (String.ofList cs)) :
    Numeral.read? cs = none := by
  rw [SpellsNumber, String.toList_ofList] at hspells
  simp only [List.mem_cons, List.not_mem_nil, or_false, not_or] at hspells
  rw [Numeral.read?, splitSign_of_letters h, Numeral.readMagnitude?,
    if_neg (not_or.mpr ⟨hspells.1, hspells.2.1⟩), if_neg hspells.2.2, readDecimal?_of_letters h]
  rfl

end Letters

/-! ## What words are taken for -/

namespace IsWordOfLetters

variable {word : String} (hword : IsWordOfLetters word)
include hword

/-- A word that spells a number is taken for one, which is not finite. -/
theorem parseLoose_of_spellsNumber (h : SpellsNumber word) :
    ∃ x : Double, FilterValue.parseLoose word = .float x ∧ x.isFinite = false := by
  obtain ⟨x, hx, hfinite⟩ := read?_of_spellsNumber hword.letters (by rwa [String.ofList_toList])
  refine ⟨x.toDouble, ?_, hfinite⟩
  rw [FilterValue.parseLoose, readInt?_of_letters hword.letters, hx]
  rfl

/-- **A word is taken for a text** exactly if it spells no number, unless it is one of the two truth
values. -/
theorem parseLoose_eq_text_iff (htrue : word ≠ "true") (hfalse : word ≠ "false") :
    FilterValue.parseLoose word = .text word ↔ ¬ SpellsNumber word := by
  constructor
  · intro htext hspells
    obtain ⟨x, hx, -⟩ := hword.parseLoose_of_spellsNumber hspells
    rw [hx] at htext
    cases htext
  · intro hspells
    have hread := read?_of_not_spellsNumber hword.letters (by rwa [String.ofList_toList])
    rw [FilterValue.parseLoose, readInt?_of_letters hword.letters, hread]
    simp [htrue, hfalse]

end IsWordOfLetters

/-- **Only a text equals a string**, and only the string itself. -/
theorem FilterValue.equals_string_iff {v : FilterValue} {s : String} :
    v.equals (.string s) = true ↔ v = .text s := by
  constructor
  · intro h
    cases v with
    | text t => exact congrArg text ((means_iff h).mpr ⟨rfl, trivial⟩)
    | bool b => cases h
    | integer value => cases h
    | float value => cases h
  · rintro rfl
    exact equals_of_ofJson? rfl fun y hy => FilterValue.noConfusion hy

/-! ## Filters -/

namespace Filter

/-- **How a filter is given.**  The first equals sign ends the key. -/
theorem parse?_append {key : String} (hkey : key ≠ "") (hsign : '=' ∉ key.toList)
    (value : String) : parse? (key ++ "=" ++ value) = some ⟨key, .parseLoose value⟩ := by
  have hchars : (key ++ "=" ++ value).toList = key.toList ++ '=' :: value.toList := by
    simp
  have hbefore : (key.toList ++ '=' :: value.toList).takeWhile (· ≠ '=') = key.toList := by
    rw [List.takeWhile_append_of_pos fun c hc => by
        simpa using fun heq : c = '=' => hsign (heq ▸ hc),
      List.takeWhile_cons_of_neg (by simp), List.append_nil]
  have hne : key.toList ≠ [] := String.toList_eq_nil_iff.not.mpr hkey
  simp only [parse?, hchars, hbefore, List.drop_left, List.isEmpty_iff, if_neg hne,
    String.ofList_toList]

/-- Every row is found that has the word under the key: a filter is read from the argument, it makes
a predicate, and this can be evaluated on the row and holds. -/
def FindsWord (key word : String) : Prop :=
  ∀ item : Item, item.node.metadata.toDocument.nesting ≤ maxSearchDepth →
    item.node.metadata.get? key = some (.string word) →
    ∃ f, parse? (key ++ "=" ++ word) = some f ∧
      (∃ predicate, Predicate.render [f] "d.metadata" = .ok predicate) ∧
      allHold [f] (DataRow.ofItem item).metadata = .ok true

/-- **Evaluated on a row** that has an entry under its key, a filter compares with the entry. -/
theorem allHold_of_get? {key : String} (hbackslash : '\\' ∉ key.toList)
    (hnul : '\x00' ∉ key.toList) (v : FilterValue) {item : Item}
    (hdepth : item.node.metadata.toDocument.nesting ≤ maxSearchDepth) {x : Json}
    (hget : item.node.metadata.get? key = some x) :
    allHold [⟨key, v⟩] (DataRow.ofItem item).metadata = .ok (v.equals x) := by
  have hholds := holds_text ⟨key, v⟩ hdepth
  rw [holdsOf, Metadata.memberOf?_toDocument,
    Metadata.selected?_of_get? hbackslash hnul hget] at hholds
  rw [allHold_singleton]
  refine hholds.trans ?_
  rw [if_neg hnul]
  rfl

/-- **When no row with a string is missed**: the argument is taken for a text, and its key has
neither a backslash nor NUL. -/
theorem findsWord_iff {key : String} (hkey : key ≠ "") (hsign : '=' ∉ key.toList)
    (hquote : '"' ∉ key.toList) (word : String) :
    FindsWord key word ↔ FilterValue.parseLoose word = .text word ∧
      '\\' ∉ key.toList ∧ '\x00' ∉ key.toList := by
  have hparse := parse?_append hkey hsign word
  constructor
  · intro hfinds
    -- the only entry of this item is the one under the key
    have hdepth : (Item.withEntry key (.string word)).node.metadata.toDocument.nesting ≤
        maxSearchDepth := show 1 ≤ 1000 by decide
    obtain ⟨f, hf, -, hfound⟩ := hfinds (Item.withEntry key (.string word)) hdepth
      List.lookup_cons_self
    obtain rfl := Option.some.inj (hparse.symm.trans hf)
    rw [allHold_singleton] at hfound
    obtain ⟨hnul, entry, hselected, hequals⟩ := (holds_text_iff _ hdepth).mp hfound
    have hentry : entry ∈ [(key, Json.string word)] := List.mem_of_find?_eq_some hselected
    rw [List.mem_singleton] at hentry
    subst hentry
    exact ⟨FilterValue.equals_string_iff.mp hequals, fun hbackslash =>
      Metadata.name_ne_of_selected? hbackslash hnul hselected rfl, hnul⟩
  · rintro ⟨htext, hbackslash, hnul⟩ item hdepth hget
    have hsupported : isSupportedKey key = true := by simp [isSupportedKey, hkey, hquote]
    refine ⟨⟨key, .parseLoose word⟩, hparse, exists_render hsupported _, ?_⟩
    rw [allHold_of_get? hbackslash hnul _ hdepth hget, FilterValue.equals_string_iff.mpr htext]

/-- **Filters with a word for their value.**  For a key without an equals sign and double quote, and
a word of letters that is no truth value: the word is taken for a text exactly if it does not spell
a number.  Then, and if the key has neither a backslash nor NUL, every row is found that has the
word under the key; else some row is missed.  A word that spells a number is taken for one that is
not finite, and if the key has neither of these characters, all rows are missed that have the
word. -/
theorem word_filter {key word : String} (hkey : key ≠ "") (hsign : '=' ∉ key.toList)
    (hquote : '"' ∉ key.toList) (hword : IsWordOfLetters word) (htrue : word ≠ "true")
    (hfalse : word ≠ "false") :
    (parse? (key ++ "=" ++ word) = some ⟨key, .text word⟩ ↔ ¬ SpellsNumber word) ∧
    (FindsWord key word ↔
      ¬ SpellsNumber word ∧ '\\' ∉ key.toList ∧ '\x00' ∉ key.toList) ∧
    (SpellsNumber word → ∃ x : Double, x.isFinite = false ∧
      parse? (key ++ "=" ++ word) = some ⟨key, .float x⟩ ∧
      ('\\' ∉ key.toList → '\x00' ∉ key.toList → ∀ item : Item,
        item.node.metadata.toDocument.nesting ≤ maxSearchDepth →
        item.node.metadata.get? key = some (.string word) →
        allHold [⟨key, .float x⟩] (DataRow.ofItem item).metadata = .ok false)) := by
  have hparse := parse?_append hkey hsign word
  have htext := hword.parseLoose_eq_text_iff htrue hfalse
  refine ⟨?_, ?_, fun hspells => ?_⟩
  · rw [hparse, Option.some_inj, ← htext]
    exact ⟨congrArg Filter.value, congrArg (Filter.mk key)⟩
  · rw [findsWord_iff hkey hsign hquote, htext]
  · obtain ⟨x, hx, hfinite⟩ := hword.parseLoose_of_spellsNumber hspells
    refine ⟨x, hfinite, by rw [hparse, hx], fun hbackslash hnul item hdepth hget => ?_⟩
    exact allHold_of_get? hbackslash hnul (.float x) hdepth hget

/-- A word that begins like the spelling of a number. -/
theorem word_filter_info : parse? "name=info" = some ⟨"name", .text "info"⟩ ∧
    FindsWord "name" "info" := by
  obtain ⟨hparse, hfinds, -⟩ := @word_filter "name" "info" (by decide) (by decide) (by decide)
    (by decide) (by decide) (by decide)
  exact ⟨hparse.mpr (by decide), hfinds.mpr ⟨by decide, by decide, by decide⟩⟩

/-- A name that is taken for infinity: a row that has it is not found. -/
theorem not_findsWord_inf : IsWordOfLetters "Inf" ∧
    parse? "name=Inf" = some ⟨"name", .float ⟨0x7ff0000000000000⟩⟩ ∧
    (Item.withEntry "name" (.string "Inf")).node.metadata.get? "name" = some (.string "Inf") ∧
    allHold [⟨"name", .float ⟨0x7ff0000000000000⟩⟩]
      (DataRow.ofItem (Item.withEntry "name" (.string "Inf"))).metadata = .ok false ∧
    ¬ FindsWord "name" "Inf" := by
  have hparse : parse? "name=Inf" = some ⟨"name", .float ⟨0x7ff0000000000000⟩⟩ := by
    decide +kernel
  have hmissed : allHold [⟨"name", .float ⟨0x7ff0000000000000⟩⟩]
      (DataRow.ofItem (Item.withEntry "name" (.string "Inf"))).metadata = .ok false := by
    decide +kernel
  refine ⟨by decide, hparse, by rfl, hmissed, fun hfinds => ?_⟩
  obtain ⟨f, hf, -, hfound⟩ := hfinds (Item.withEntry "name" (.string "Inf"))
    (by decide +kernel) rfl
  obtain rfl := Option.some.inj (hparse.symm.trans hf)
  rw [hmissed] at hfound
  cases hfound

end Filter

end HybridRetrieval
