import HybridRetrieval.Proofs.Json.NumberText
import HybridRetrieval.Proofs.Toml.StringReadBack
import HybridRetrieval.Toml.Reader
/-!
# Lines of entries read back

A document of lines `key = value` is read as its entries in their order, if every key stands
without quotes, no key is used twice and every value is spelled so that it is read to the end of
its line (`Spells`).  Strings, whole numbers of 64 bits and truth values are.
-/

namespace HybridRetrieval.Toml

open Json (IsDigits)

/-! ## Values -/

/-- A text from which a value is read up to the end of the line. -/
structure Spells (text : List Char) (value : Toml) : Prop where
  first : ∃ c tail, text = c :: tail ∧ c ≠ ' ' ∧ c ≠ '\t'
  read (fuel depth : Nat) (more : List Char) :
    readValue? (fuel + 1) depth (text ++ '\n' :: more) = some (value, '\n' :: more)

/-- A written string opens with a quote. -/
theorem writeString_eq_cons (s : String) :
    ∃ quote tail, writeString s = quote :: tail ∧ (quote = '"' ∨ quote = '\'') := by
  rw [writeString]
  cases stringForm s.toList with
  | basic | tripleBasic => exact ⟨_, _, rfl, .inl rfl⟩
  | literal | tripleLiteral => exact ⟨_, _, rfl, .inr rfl⟩

theorem spells_string (s : String) : Spells (writeString s) (.string s) where
  first := by
    obtain ⟨quote, tail, hcons, rfl | rfl⟩ := writeString_eq_cons s <;>
      exact ⟨_, _, hcons, by decide, by decide⟩
  read fuel depth more := by
    have hread : readString? (writeString s ++ '\n' :: more) = some (s, '\n' :: more) :=
      readString?_writeString s (by simp) (by simp)
    obtain ⟨quote, tail, hcons, hquote⟩ := writeString_eq_cons s
    rw [hcons, List.cons_append] at hread ⊢
    obtain rfl | rfl := hquote <;> simp [readValue?, hread]

/-- What begins with a character of numbers and words is read as one of them. -/
theorem readValue?_scalar {c : Char} (h : isScalarChar c = true) (fuel depth : Nat)
    (rest : List Char) : readValue? (fuel + 1) depth (c :: rest) = readScalar? (c :: rest) := by
  have hother : ∀ d ∈ ['"', '\'', '[', '{'], c ≠ d := by
    rintro d hd rfl
    simp only [List.mem_cons, List.not_mem_nil, or_false] at hd
    obtain rfl | rfl | rfl | rfl := hd <;> exact absurd h (by decide)
  simp only [List.mem_cons, List.not_mem_nil, or_false, forall_eq_or_imp, forall_eq] at hother
  obtain ⟨hdouble, hsingle, hbracket, hbrace⟩ := hother
  rw [readValue?] <;> simp_all

/-- The word or number at the end of a line reaches up to its end. -/
theorem takeWhile_token {token : List Char} (h : ∀ c ∈ token, isScalarChar c = true)
    (more : List Char) : (token ++ '\n' :: more).takeWhile isScalarChar = token := by
  rw [List.takeWhile_append_of_pos h, List.takeWhile_cons_of_neg (by decide), List.append_nil]

theorem dropWhile_token {token : List Char} (h : ∀ c ∈ token, isScalarChar c = true)
    (more : List Char) : (token ++ '\n' :: more).dropWhile isScalarChar = '\n' :: more := by
  rw [List.dropWhile_append_of_pos h, List.dropWhile_cons_of_neg (by decide)]

/-- A word or number spells what is read from it. -/
theorem Spells.of_token {token : List Char} {value : Toml} (hne : token ≠ [])
    (h : ∀ c ∈ token, isScalarChar c = true)
    (hread : ∀ more, readScalar? (token ++ '\n' :: more) = some (value, '\n' :: more)) :
    Spells token value where
  first := by
    obtain ⟨c, tail, rfl⟩ := List.exists_cons_of_ne_nil hne
    refine ⟨c, tail, rfl, ?_, ?_⟩ <;>
    · rintro rfl
      exact absurd (h _ List.mem_cons_self) (by decide)
  read fuel depth more := by
    obtain ⟨c, tail, rfl⟩ := List.exists_cons_of_ne_nil hne
    rw [List.cons_append, readValue?_scalar (h c List.mem_cons_self), ← List.cons_append, hread]

theorem spells_true : Spells ['t', 'r', 'u', 'e'] (.boolean true) := by
  have hchars : ∀ c ∈ ['t', 'r', 'u', 'e'], isScalarChar c = true :=
    List.all_eq_true.mp (by decide)
  refine .of_token (List.cons_ne_nil _ _) hchars fun more => ?_
  rw [readScalar?, takeWhile_token hchars, dropWhile_token hchars, if_pos rfl]

theorem spells_false : Spells ['f', 'a', 'l', 's', 'e'] (.boolean false) := by
  have hchars : ∀ c ∈ ['f', 'a', 'l', 's', 'e'], isScalarChar c = true :=
    List.all_eq_true.mp (by decide)
  refine .of_token (List.cons_ne_nil _ _) hchars fun more => ?_
  rw [readScalar?, takeWhile_token hchars, dropWhile_token hchars, if_neg (by decide), if_pos rfl]

/-! ## Whole numbers -/

section Digits

variable {cs : List Char} (h : IsDigits cs)

include h

theorem not_mem_of_isDigits {c : Char} (hc : c.isDigit = false) : c ∉ cs :=
  fun hmem => absurd (h c hmem) (by simp [hc])

theorem unsigned_eq_of_isDigits : unsigned cs = cs := by
  unfold unsigned
  split
  · exact absurd List.mem_cons_self (not_mem_of_isDigits h (by decide))
  · exact absurd List.mem_cons_self (not_mem_of_isDigits h (by decide))
  · rfl

/-- Digits without underscores spell the same number in either reading. -/
theorem ofBase_eq_of_isDigits : ofBase 10 cs = Decimal.ofDigitChars cs := by
  have hdrop : dropUnderscores cs = cs :=
    List.filter_eq_self.mpr fun c hc => by
      have := fun heq : c = '_' => not_mem_of_isDigits h (by decide) (heq ▸ hc)
      simpa using this
  rw [ofBase, hdrop, Decimal.ofDigitChars]
  refine List.foldl_ext _ _ _ fun n c hc => ?_
  have hvalue : Hex.value? c = some (c.toNat - '0'.toNat) := by
    have hdigit : '0' ≤ c ∧ c ≤ '9' := by simpa [Char.isDigit, Char.le_def] using h c hc
    rw [Hex.value?, if_pos hdigit]
    rfl
  rw [hvalue, Option.getD_some]

/-- A run of digits is an integer if it has no superfluous zero. -/
theorem integer?_eq_of_isDigits (hne : cs ≠ []) (hzero : cs.head? = some '0' → cs.length = 1) :
    integer? cs = signed64? (Decimal.ofDigitChars cs) := by
  have hsplit : cs.splitOn '_' = [cs] :=
    List.splitOn_eq_singleton (not_mem_of_isDigits h (by decide))
  have hwhole : isWhole cs = true := by
    have hall : cs.all Char.isDigit = true := List.all_eq_true.mpr h
    have hfirst : (cs.head? != some '0' || cs.length == 1) = true := by
      by_cases hhead : cs.head? = some '0'
      · simp [hzero hhead]
      · simp [hhead]
    simp [isWhole, isDigitRun, hsplit, hne, hall, hfirst]
  have hsign : cs.head? ≠ some '-' := fun hhead =>
    not_mem_of_isDigits h (by decide) (List.mem_of_mem_head? hhead)
  unfold integer?
  split
  · exact absurd (List.mem_cons_of_mem _ List.mem_cons_self) (not_mem_of_isDigits h (by decide))
  · exact absurd (List.mem_cons_of_mem _ List.mem_cons_self) (not_mem_of_isDigits h (by decide))
  · exact absurd (List.mem_cons_of_mem _ List.mem_cons_self) (not_mem_of_isDigits h (by decide))
  · simp only [unsigned_eq_of_isDigits h, hwhole, if_true, if_neg hsign, ofBase_eq_of_isDigits h]

end Digits

theorem spells_integer {n : Nat} (h : isSigned64 n = true) :
    Spells (Decimal.digitChars n) (.integer n) := by
  have hdigits := Decimal.isDigits_digitChars n
  have hchars : ∀ c ∈ Decimal.digitChars n, isScalarChar c = true := by
    intro c hc
    simp [isScalarChar, Char.isAlphanum, hdigits c hc]
  have hzero : (Decimal.digitChars n).head? = some '0' → (Decimal.digitChars n).length = 1 := by
    intro hhead
    rw [Decimal.eq_zero_of_head? hhead]
    rfl
  have hinteger : integer? (Decimal.digitChars n) = some (n : Int) := by
    rw [integer?_eq_of_isDigits hdigits (Decimal.digitChars_ne_nil n) hzero,
      Decimal.ofDigitChars_digitChars, signed64?, if_pos h]
  refine .of_token (Decimal.digitChars_ne_nil n) hchars fun more => ?_
  have hword : ∀ word : List Char, word.all Char.isDigit = false → Decimal.digitChars n ≠ word := by
    rintro word hword rfl
    exact absurd (List.all_eq_true.mpr hdigits) (by simp [hword])
  rw [readScalar?, takeWhile_token hchars, dropWhile_token hchars,
    if_neg (hword _ (by decide)), if_neg (hword _ (by decide))]
  simp only [hinteger]

/-! ## Keys -/

theorem ne_of_isBareKeyChar {c d : Char} (h : isBareKeyChar c = true)
    (hd : isBareKeyChar d = false) : c ≠ d := by
  rintro rfl
  exact absurd h (by simp [hd])

theorem skipBlanks_cons {c : Char} (hspace : c ≠ ' ') (htab : c ≠ '\t') (rest : List Char) :
    skipBlanks (c :: rest) = c :: rest := by
  rw [skipBlanks, List.dropWhile_cons_of_neg (by simp [hspace, htab])]

section Key

variable {key : String} (hne : key.toList ≠ []) (hbare : ∀ c ∈ key.toList, isBareKeyChar c = true)

include hne hbare

/-- A key without quotes begins with one of the characters of such keys. -/
theorem exists_bare_cons (rest : List Char) :
    ∃ c tail, key.toList ++ rest = c :: tail ∧ isBareKeyChar c = true := by
  obtain ⟨c, tail, hkey⟩ := List.exists_cons_of_ne_nil hne
  exact ⟨c, tail ++ rest, by rw [hkey, List.cons_append], hbare c (hkey ▸ List.mem_cons_self)⟩

/-- A key without quotes is read up to the blank behind it. -/
theorem readKeyPart?_bare (rest : List Char) :
    readKeyPart? (key.toList ++ ' ' :: rest) = some (key, ' ' :: rest) := by
  obtain ⟨c, tail, hcons, hc⟩ := exists_bare_cons hne hbare (' ' :: rest)
  have hpart : readKeyPart? (c :: tail) =
      if ((c :: tail).takeWhile isBareKeyChar).isEmpty then none
      else some (String.ofList ((c :: tail).takeWhile isBareKeyChar),
        (c :: tail).dropWhile isBareKeyChar) := by
    have hdouble := ne_of_isBareKeyChar hc (d := '"') (by decide)
    have hsingle := ne_of_isBareKeyChar hc (d := '\'') (by decide)
    rw [readKeyPart?] <;> simp_all
  have hempty : key.toList.isEmpty = false := by simpa using hne
  rw [hcons, hpart, ← hcons, List.takeWhile_append_of_pos hbare,
    List.takeWhile_cons_of_neg (by decide), List.append_nil, List.dropWhile_append_of_pos hbare,
    List.dropWhile_cons_of_neg (by decide), hempty, String.ofList_toList]
  rfl

/-- A key without quotes or dots is read up to the sign behind it. -/
theorem readKey?_bare (fuel : Nat) (rest : List Char) :
    readKey? (fuel + 1) (key.toList ++ ' ' :: '=' :: rest) = some ([key], '=' :: rest) := by
  obtain ⟨c, tail, hcons, hc⟩ := exists_bare_cons hne hbare (' ' :: '=' :: rest)
  have hskip :
      skipBlanks (key.toList ++ ' ' :: '=' :: rest) = key.toList ++ ' ' :: '=' :: rest := by
    rw [hcons]
    exact skipBlanks_cons (ne_of_isBareKeyChar hc (by decide))
      (ne_of_isBareKeyChar hc (by decide)) tail
  have hsign : skipBlanks (' ' :: '=' :: rest) = '=' :: rest := by simp [skipBlanks]
  rw [readKey?, hskip, readKeyPart?_bare hne hbare]
  simp [hsign]

end Key

/-! ## Lines -/

/-- A line of a document: a key, and a text for its value. -/
structure EntryLine where
  key : String
  text : List Char
  value : Toml

namespace EntryLine

/-- The characters of the line. -/
def chars (l : EntryLine) : List Char := l.key.toList ++ [' ', '=', ' '] ++ l.text ++ ['\n']

/-- The entry that the line makes. -/
def entry (l : EntryLine) : String × Toml := (l.key, l.value)

/-- The key stands without quotes, and the text spells the value. -/
structure IsReadable (l : EntryLine) : Prop where
  named : l.key.toList ≠ []
  bare : ∀ c ∈ l.key.toList, isBareKeyChar c = true
  spells : Spells l.text l.value

theorem chars_append (l : EntryLine) (rest : List Char) :
    l.chars ++ rest = l.key.toList ++ ' ' :: '=' :: ' ' :: (l.text ++ '\n' :: rest) := by
  simp [chars]

/-- **A readable line is read as its entry.** -/
theorem readKeyValue?_chars {l : EntryLine} (h : l.IsReadable) (rest : List Char) :
    readKeyValue? (l.chars ++ rest) = some (.entry [] l.key l.value, rest) := by
  have hkey := readKey?_bare h.named h.bare (l.chars ++ rest).length
    (' ' :: (l.text ++ '\n' :: rest))
  have hskip : skipBlanks (' ' :: (l.text ++ '\n' :: rest)) = l.text ++ '\n' :: rest := by
    obtain ⟨c, tail, htext, hspace, htab⟩ := h.spells.first
    rw [htext, List.cons_append, skipBlanks, List.dropWhile_cons_of_pos (by decide), ← skipBlanks,
      skipBlanks_cons hspace htab]
  have hvalue := h.spells.read (2 * (' ' :: (l.text ++ '\n' :: rest)).length + 1) maxNesting rest
  have hend : lineEnd? ('\n' :: rest) = some rest := rfl
  have hsplit : splitKey? [l.key] = some ([], l.key) := rfl
  have hparts : ¬ maxNesting < [l.key].length := Nat.not_lt.mpr (Nat.le_add_left 1 78)
  rw [← chars_append] at hkey
  rw [readKeyValue?, hkey]
  simp only [hsplit, if_neg hparts, hskip, hvalue, hend, Option.map_some]

/-- A line that begins with a character of keys makes a statement if it is read as an entry. -/
theorem readStatements?_cons {c : Char} (hc : isBareKeyChar c = true) {tail rest : List Char}
    {statement : Statement} (h : readKeyValue? (c :: tail) = some (statement, rest)) (fuel : Nat) :
    readStatements? (fuel + 1) (c :: tail) = (readStatements? fuel rest).map (statement :: ·) := by
  have hne : ∀ d, isBareKeyChar d = false → c ≠ d := fun d => ne_of_isBareKeyChar hc
  have hbracket := hne '[' (by decide)
  have hline : ¬ (c = '#' ∨ c = '\n' ∨ c = '\r') := by
    rintro (rfl | rfl | rfl) <;> exact absurd hc (by decide)
  rw [readStatements?, skipBlanks_cons (hne _ (by decide)) (hne _ (by decide))]
  simp [hbracket, hline, h]

/-- **Readable lines are read as their entries in order.** -/
theorem readStatements?_chars {lines : List EntryLine} (h : ∀ l ∈ lines, l.IsReadable)
    {fuel : Nat} (hfuel : lines.length < fuel) :
    readStatements? fuel (lines.flatMap chars) =
      some (lines.map fun l => .entry [] l.key l.value) := by
  induction lines generalizing fuel with
  | nil =>
      obtain ⟨fuel, rfl⟩ : ∃ n, fuel = n + 1 := ⟨fuel - 1, by omega⟩
      rfl
  | cons l lines ih =>
      obtain ⟨fuel, rfl⟩ : ∃ n, fuel = n + 1 := ⟨fuel - 1, by omega⟩
      obtain ⟨hl, hlines⟩ := List.forall_mem_cons.mp h
      have hentry := readKeyValue?_chars hl (lines.flatMap chars)
      have hrest := ih hlines (Nat.lt_of_succ_lt_succ hfuel)
      obtain ⟨c, tail, hcons, hc⟩ := exists_bare_cons hl.named hl.bare
        (' ' :: '=' :: ' ' :: (l.text ++ '\n' :: lines.flatMap chars))
      rw [← chars_append] at hcons
      rw [hcons] at hentry
      rw [List.flatMap_cons, hcons, readStatements?_cons hc hentry, hrest]
      rfl

/-- An entry with a new key is added at the end of the document. -/
theorem define_new {entries : Entries} {key : String} (h : key ∉ entries.map Prod.fst)
    (value : Toml) : define false entries [] key value = some (entries ++ [(key, value)]) := by
  have hany : entries.any (·.1 == key) = false := by
    rw [List.any_eq_false]
    intro entry hentry heq
    exact h (List.mem_map.mpr ⟨entry, hentry, beq_iff_eq.mp heq⟩)
  simp [define, change, hany]

/-- **Entries with keys of their own make a table of just these entries.** -/
theorem run_entries {lines : List EntryLine} {entries : Entries}
    (h : (entries.map Prod.fst ++ lines.map key).Nodup) :
    run [] entries (lines.map fun l => .entry [] l.key l.value) =
      some (entries ++ lines.map entry) := by
  induction lines generalizing entries with
  | nil => simp [run]
  | cons l lines ih =>
      have hnew : l.key ∉ entries.map Prod.fst := fun hmem =>
        (List.nodup_append.mp h).2.2 _ hmem _ List.mem_cons_self rfl
      have hnext : ((entries ++ [l.entry]).map Prod.fst ++ lines.map key).Nodup := by
        simpa [entry] using h
      have hstep : change false (fun isDotted inner => define isDotted inner [] l.key l.value) false
          entries [] = some (entries ++ [l.entry]) := define_new hnew l.value
      rw [List.map_cons, run, hstep, Option.bind_eq_bind, Option.bind_some, ih hnext]
      simp

/-- Every line has a character. -/
theorem length_le_flatMap_chars (lines : List EntryLine) :
    lines.length ≤ (lines.flatMap chars).length := by
  induction lines with
  | nil => exact Nat.zero_le _
  | cons l lines ih =>
      have hchars : 0 < l.chars.length := by simp [chars]
      simp only [List.length_cons, List.flatMap_cons, List.length_append]
      omega

/-- **A document of readable lines with different keys is read as its entries.** -/
theorem read?_chars {lines : List EntryLine} (h : ∀ l ∈ lines, l.IsReadable)
    (hkeys : (lines.map key).Nodup) :
    read? (lines.flatMap chars) = some (lines.map entry) := by
  have hmark : ∀ rest, lines.flatMap chars ≠ '\ufeff' :: rest := by
    intro rest heq
    cases lines with
    | nil => cases heq
    | cons l lines =>
        obtain ⟨hl, -⟩ := List.forall_mem_cons.mp h
        obtain ⟨c, tail, hcons, hc⟩ := exists_bare_cons hl.named hl.bare
          (' ' :: '=' :: ' ' :: (l.text ++ '\n' :: lines.flatMap chars))
        rw [List.flatMap_cons, chars_append, hcons] at heq
        exact ne_of_isBareKeyChar hc (by decide) (List.cons.inj heq).1
  have hread : readStatements? ((lines.flatMap chars).length + 1) (lines.flatMap chars) =
      some (lines.map fun l => .entry [] l.key l.value) :=
    readStatements?_chars h (Nat.lt_succ_of_le (length_le_flatMap_chars lines))
  have hrun : run [] [] (lines.map fun l => .entry [] l.key l.value) =
      some ([] ++ lines.map entry) := run_entries (by simpa using hkeys)
  rw [read?, hread, Option.bind_some, hrun, List.nil_append]
  exact hmark

end EntryLine

end HybridRetrieval.Toml
