import HybridRetrieval.Toml.Text
import Mathlib.Data.List.TakeWhile
/-!
# TOML strings read back

`writeString` picks one of four forms, and `readString?` undoes each of them.  What is written for
one character is an escape, the character itself, or a line break that may stay, and a reader
takes it off as a whole (`escapeChar_cases`).  Between triple quotes the danger is a run of quotes:
the reader closes the string at the first run of three, so the text must hold no such run, and the
quotes at its end must still belong to it when the closing ones follow (`closeTriple?_append`).
-/

namespace HybridRetrieval.Toml

variable {c quote : Char} {cs rest : List Char}

/-! ## Escapes -/

theorem ne_newline_of_isTextChar (h : isTextChar c = true) : c ≠ '\n' := by
  rintro rfl
  exact absurd h (by decide)

theorem ne_return_of_isTextChar (h : isTextChar c = true) : c ≠ '\r' := by
  rintro rfl
  exact absurd h (by decide)

theorem newline?_cons (hn : c ≠ '\n') (hr : c ≠ '\r') (rest : List Char) :
    newline? (c :: rest) = none := by
  unfold newline?
  split <;> simp_all

/-- A one-letter escape is read by its letter. -/
theorem readEscape?_letter {letter : Char} (hu : letter ≠ 'u') (hU : letter ≠ 'U')
    (h : shortEscape? letter = some c) (rest : List Char) :
    readEscape? (letter :: rest) = some (c, rest) := by
  unfold readEscape?
  split <;> simp_all

theorem readEscape?_quote (rest : List Char) : readEscape? ('"' :: rest) = some ('"', rest) :=
  readEscape?_letter (by decide) (by decide) rfl rest

/-- The digits of a character that has no place in a text spell its code. -/
theorem readEscape?_code (h : isTextChar c = false) (rest : List Char) :
    readEscape? ('u' :: (upperHex (Hex.fixed 4 c.toNat) ++ rest)) = some (c, rest) := by
  have hlow : ∀ code < 0x20, escapeOf? (upperHex (Hex.fixed 4 code)) = some (Char.ofNat code) := by
    decide
  have hdelete : escapeOf? (upperHex (Hex.fixed 4 0x7f)) = some (Char.ofNat 0x7f) := by decide
  have hread : escapeOf? (upperHex (Hex.fixed 4 c.toNat)) = some c := by
    simp only [isTextChar, Bool.or_eq_false_iff, Bool.and_eq_false_iff, decide_eq_false_iff_not,
      Nat.not_le, not_not] at h
    obtain hcode | hcode := h.2
    · rw [hlow _ hcode, Char.ofNat_toNat]
    · rw [hcode, hdelete, ← hcode, Char.ofNat_toNat]
  simpa [Hex.fixed, upperHex, readEscape?] using hread

/-- What stands for a character that is no quote is an escape, a line break where those may stay,
or the character itself. -/
theorem escapeChar_cases (keepNewline : Bool) (c : Char) :
    (∃ letter code, escapeChar keepNewline c = '\\' :: letter :: code ∧
        letter ∉ [' ', '\t', '\n', '\r'] ∧
        ∀ rest, readEscape? (letter :: (code ++ rest)) = some (c, rest)) ∨
    (c = '\n' ∧ keepNewline = true ∧ escapeChar keepNewline c = ['\n']) ∨
    (isTextChar c = true ∧ c ≠ '\\' ∧ escapeChar keepNewline c = [c]) := by
  by_cases hshort : c ∈ ['\\', '\x08', '\t', '\x0c', '\r']
  · left
    simp only [List.mem_cons, List.not_mem_nil, or_false] at hshort
    obtain rfl | rfl | rfl | rfl | rfl := hshort <;>
      exact ⟨_, [], rfl, by decide, readEscape?_letter (by decide) (by decide) rfl⟩
  simp only [List.mem_cons, List.not_mem_nil, or_false, not_or] at hshort
  obtain ⟨hbackslash, hb, ht, hf, hr⟩ := hshort
  by_cases hn : c = '\n'
  · subst hn
    cases keepNewline with
    | true => exact .inr (.inl ⟨rfl, rfl, rfl⟩)
    | false =>
        exact .inl ⟨_, [], rfl, by decide, readEscape?_letter (by decide) (by decide) rfl⟩
  cases htext : isTextChar c with
  | true => exact .inr (.inr ⟨rfl, hbackslash, by simp [escapeChar, *]⟩)
  | false =>
      exact .inl ⟨'u', upperHex (Hex.fixed 4 c.toNat), by simp [escapeChar, *], by decide,
        readEscape?_code htext⟩

/-! ## Strings on one line -/

/-- Between double quotes one character is read from what stands for it. -/
theorem readBasic?_escapeChar (hc : c ≠ '"') (fuel : Nat) (rest : List Char) :
    readBasic? (fuel + 1) (escapeChar false c ++ rest) = (readBasic? fuel rest).cons c := by
  obtain ⟨letter, code, hescape, -, hread⟩ | ⟨-, hkeep, -⟩ | ⟨htext, hbackslash, hescape⟩ :=
    escapeChar_cases false c
  · simp [hescape, readBasic?, hread]
  · cases hkeep
  · simp [hescape, readBasic?, htext]

/-- The reader undoes the escapes and stops at the closing quote. -/
theorem readBasic?_escapeBasic {fuel : Nat} (hfuel : cs.length < fuel) (rest : List Char) :
    readBasic? fuel (escapeBasic false 0 0 cs ++ '"' :: rest) = some (cs, rest) := by
  induction cs generalizing fuel with
  | nil =>
      obtain ⟨fuel, rfl⟩ : ∃ n, fuel = n + 1 := ⟨fuel - 1, by omega⟩
      simp [escapeBasic, readBasic?]
  | cons c cs ih =>
      obtain ⟨fuel, rfl⟩ : ∃ n, fuel = n + 1 := ⟨fuel - 1, by omega⟩
      have hrest := ih (Nat.lt_of_succ_lt_succ hfuel)
      by_cases hc : c = '"'
      · subst hc
        simp [escapeBasic, readBasic?, readEscape?_quote, hrest, Found.cons]
      · rw [escapeBasic, if_pos hc, List.append_assoc, readBasic?_escapeChar hc, hrest, Found.cons]

/-- Between single quotes a text stands as it is. -/
theorem readLiteral?_append (h : ∀ c ∈ cs, isTextChar c = true ∧ c ≠ '\'') (rest : List Char) :
    readLiteral? (cs ++ '\'' :: rest) = some (cs, rest) := by
  induction cs with
  | nil => simp [readLiteral?]
  | cons c cs ih =>
      obtain ⟨⟨htext, hc⟩, htail⟩ := List.forall_mem_cons.mp h
      simp [readLiteral?, htext, ih htail, Found.cons]

/-! ## Runs of quotes -/

/-- The number of quotes that a text begins with. -/
def leading (quote : Char) (cs : List Char) : Nat := (cs.takeWhile (· = quote)).length

theorem leading_cons_self (quote : Char) (cs : List Char) :
    leading quote (quote :: cs) = leading quote cs + 1 := by
  rw [leading, List.takeWhile_cons_of_pos (by simp), List.length_cons, leading]

theorem leading_cons_of_ne (h : c ≠ quote) : leading quote (c :: cs) = 0 := by
  rw [leading, List.takeWhile_cons_of_neg (by simpa using h), List.length_nil]

/-- One step of the search for the longest run: the longest so far and the one at hand. -/
def countRun (quote : Char) (state : Nat × Nat) (c : Char) : Nat × Nat :=
  if c = quote then (max state.1 (state.2 + 1), state.2 + 1) else (state.1, 0)

theorem longestRun_eq (quote : Char) (cs : List Char) :
    longestRun quote cs = (cs.foldl (countRun quote) (0, 0)).1 := rfl

/-- The search counts the quotes that a text begins with on top of the run at hand. -/
theorem leading_le_countRun (quote : Char) (cs : List Char) {best run : Nat} (h : run ≤ best) :
    best ≤ (cs.foldl (countRun quote) (best, run)).1 ∧
      run + leading quote cs ≤ (cs.foldl (countRun quote) (best, run)).1 := by
  induction cs generalizing best run with
  | nil => simpa [leading] using h
  | cons c cs ih =>
      rw [List.foldl_cons, countRun]
      by_cases hc : c = quote
      · obtain ⟨hbest, hrun⟩ := ih (Nat.le_max_right best (run + 1))
        rw [if_pos hc, hc, leading_cons_self]
        exact ⟨Nat.le_trans (Nat.le_max_left _ _) hbest, by dsimp only; omega⟩
      · obtain ⟨hbest, -⟩ := ih (Nat.zero_le best)
        rw [if_neg hc, leading_cons_of_ne hc]
        exact ⟨hbest, Nat.le_trans h hbest⟩

/-- No rest of a text begins with more quotes than stand together anywhere in it. -/
theorem leading_le_longestRun {back : List Char} (h : back <:+ cs) :
    leading quote back ≤ longestRun quote cs := by
  suffices ∀ {best run : Nat}, run ≤ best →
      leading quote back ≤ (cs.foldl (countRun quote) (best, run)).1 by
    rw [longestRun_eq]
    exact this (Nat.le_refl 0)
  induction cs with
  | nil =>
      intro best run _
      simp [List.suffix_nil.mp h, leading]
  | cons c cs ih =>
      intro best run hrun
      obtain rfl | hback := List.suffix_cons_iff.mp h
      · exact Nat.le_trans (Nat.le_add_left _ _) (leading_le_countRun quote (c :: cs) hrun).2
      rw [List.foldl_cons, countRun]
      split
      · exact ih hback (Nat.le_max_right _ _)
      · exact ih hback (Nat.zero_le _)

/-- A text with three quotes behind it is closed at once if it is made of quotes, at most two of
them; if it only begins with quotes, it is not closed yet. -/
theorem closeTriple?_append {cs : List Char} (hrun : leading quote cs < 3)
    (hrest : rest.head? ≠ some quote) :
    closeTriple? quote (cs ++ quote :: quote :: quote :: rest) =
      if cs.all (· = quote) then some (cs, rest) else none := by
  rw [leading] at hrun
  by_cases hall : cs.all (· = quote) = true
  · have hcs : cs.takeWhile (· = quote) = cs :=
      List.takeWhile_eq_self_iff.mpr (List.all_eq_true.mp hall)
    have hmore : rest.takeWhile (· = quote) = [] := by
      cases rest with
      | nil => rfl
      | cons d rest => exact List.takeWhile_cons_of_neg (by simpa using hrest)
    have hlength : ((cs ++ quote :: quote :: quote :: rest).takeWhile (· = quote)).length =
        cs.length + 3 := by
      rw [List.takeWhile_append_of_pos (by simpa using hall)]
      simp [hmore]
    have hquotes : cs = List.replicate cs.length quote :=
      List.eq_replicate_iff.mpr ⟨rfl, by simpa using hall⟩
    rw [hcs] at hrun
    have hdrop : (cs ++ quote :: quote :: quote :: rest).drop (cs.length + 3) = rest := by simp
    simp only [closeTriple?, hlength, if_pos hall, if_neg (show ¬ cs.length + 3 < 3 by omega),
      Nat.add_sub_cancel, Nat.min_eq_left (show cs.length ≤ 2 by omega), ← hquotes, hdrop]
  · have hcs : (cs.takeWhile (· = quote)).length ≠ cs.length := by
      intro hlength
      have hself := (List.takeWhile_prefix (· = quote)).eq_of_length hlength
      exact hall (List.all_eq_true.mpr (List.takeWhile_eq_self_iff.mp hself))
    rw [closeTriple?, List.takeWhile_append, if_neg hcs, if_pos hrun, if_neg hall]

/-- A text that begins with another character is not closed yet. -/
theorem closeTriple?_cons (h : c ≠ quote) : closeTriple? quote (c :: rest) = none := by
  rw [closeTriple?, List.takeWhile_cons_of_neg (by simpa using h)]
  rfl

/-! ## Strings between triple quotes -/

theorem readTripleBasic?_close (fuel : Nat) {found : List Char × List Char}
    (h : closeTriple? '"' cs = some found) : readTripleBasic? (fuel + 1) cs = some found := by
  rw [readTripleBasic?.eq_def]
  simp only [h]

theorem readTripleLiteral?_close (fuel : Nat) {found : List Char × List Char}
    (h : closeTriple? '\'' cs = some found) : readTripleLiteral? (fuel + 1) cs = some found := by
  rw [readTripleLiteral?.eq_def]
  simp only [h]

/-- Between triple double quotes an escape is read as the character it stands for. -/
theorem readTripleBasic?_escape {letter : Char} (hletter : letter ∉ [' ', '\t', '\n', '\r'])
    {code : List Char} (hread : readEscape? (letter :: code) = some (c, rest)) (fuel : Nat) :
    readTripleBasic? (fuel + 1) ('\\' :: letter :: code) = (readTripleBasic? fuel rest).cons c := by
  simp only [List.mem_cons, List.not_mem_nil, or_false, not_or] at hletter
  obtain ⟨hspace, htab, hn, hr⟩ := hletter
  have hfold : newline? ((letter :: code).dropWhile fun c => c = ' ' || c = '\t') = none := by
    rw [List.dropWhile_cons_of_neg (by simp [hspace, htab]), newline?_cons hn hr]
  rw [readTripleBasic?, closeTriple?_cons (by decide), newline?_cons (by decide) (by decide)]
  simp only [hfold, hread]

/-- Between triple double quotes a character that closes nothing is read as it is. -/
theorem readTripleBasic?_plain (htext : isTextChar c = true) (hbackslash : c ≠ '\\') (fuel : Nat)
    (hopen : closeTriple? '"' (c :: rest) = none) :
    readTripleBasic? (fuel + 1) (c :: rest) = (readTripleBasic? fuel rest).cons c := by
  have hn := ne_newline_of_isTextChar htext
  have hr := ne_return_of_isTextChar htext
  rw [readTripleBasic?, hopen, newline?_cons hn hr]
  · simp [htext]
  · exact hbackslash

/-- Between triple double quotes one character is read from what stands for it. -/
theorem readTripleBasic?_escapeChar (hc : c ≠ '"') (fuel : Nat) (rest : List Char) :
    readTripleBasic? (fuel + 1) (escapeChar true c ++ rest) =
      (readTripleBasic? fuel rest).cons c := by
  obtain ⟨letter, code, hescape, hletter, hread⟩ | ⟨rfl, -, hescape⟩ |
    ⟨htext, hbackslash, hescape⟩ := escapeChar_cases true c
  · rw [hescape]
    exact readTripleBasic?_escape hletter (hread rest) fuel
  · rw [hescape, List.singleton_append, readTripleBasic?, closeTriple?_cons hc, newline?]
    decide
  · rw [hescape]
    exact readTripleBasic?_plain htext hbackslash fuel (closeTriple?_cons hc)

/-- What stands for a character that is no quote begins with no quote, and with a line break only
if the character is one. -/
theorem escapeChar_eq_cons (keepNewline : Bool) (hc : c ≠ '"') :
    ∃ d tail, escapeChar keepNewline c = d :: tail ∧
      d ≠ '"' ∧ d ≠ '\r' ∧ (d = '\n' → c = '\n') := by
  obtain ⟨letter, code, hescape, -⟩ | ⟨hn, -, hescape⟩ | ⟨htext, -, hescape⟩ :=
    escapeChar_cases keepNewline c
  · exact ⟨_, _, hescape, by decide, by decide, fun h => absurd h (by decide)⟩
  · exact ⟨_, _, hescape, by decide, by decide, fun _ => hn⟩
  · exact ⟨_, _, hescape, hc, ne_return_of_isTextChar htext, id⟩

/-- With some quotes just before, the written text begins with so few that at most two stand
together. -/
theorem leading_escapeBasic {quotes : Nat} (h : quotes ≤ 2) (cs : List Char) :
    quotes + leading '"' (escapeBasic true 2 quotes cs) ≤ 2 := by
  induction cs generalizing quotes with
  | nil => simpa [escapeBasic, leading] using h
  | cons c cs ih =>
      rw [escapeBasic]
      split_ifs with hc hfull
      · obtain ⟨d, tail, hescape, hd, -⟩ := escapeChar_eq_cons true hc
        rw [hescape, List.cons_append, leading_cons_of_ne hd]
        exact h
      · rw [leading_cons_of_ne (by decide)]
        exact h
      · have hnext : quotes + 1 ≤ 2 := by omega
        have := ih hnext
        rw [leading_cons_self]
        omega

/-- A text written with nothing but quotes is written as it is. -/
theorem escapeBasic_eq_of_all {keepNewline : Bool} {maxQuotes quotes : Nat}
    (h : (escapeBasic keepNewline maxQuotes quotes cs).all (· = '"') = true) :
    escapeBasic keepNewline maxQuotes quotes cs = cs := by
  induction cs generalizing quotes with
  | nil => rfl
  | cons c cs ih =>
      rw [escapeBasic] at h ⊢
      split_ifs at h ⊢ with hc hfull
      · obtain ⟨d, tail, hescape, hd, -⟩ := escapeChar_eq_cons keepNewline hc
        simp [hescape, hd] at h
      · simp at h
      · rw [List.all_cons, Bool.and_eq_true] at h
        rw [ih h.2, not_not.mp hc]

/-- The reader undoes the escapes between triple double quotes and stops at the closing ones. -/
theorem readTripleBasic?_escapeBasic {quotes fuel : Nat} (hquotes : quotes ≤ 2)
    (hfuel : cs.length < fuel) (hrest : rest.head? ≠ some '"') :
    readTripleBasic? fuel (escapeBasic true 2 quotes cs ++ '"' :: '"' :: '"' :: rest) =
      some (cs, rest) := by
  induction cs generalizing quotes fuel with
  | nil =>
      obtain ⟨fuel, rfl⟩ : ∃ n, fuel = n + 1 := ⟨fuel - 1, by omega⟩
      exact readTripleBasic?_close fuel (closeTriple?_append (Nat.zero_lt_succ 2) hrest)
  | cons c cs ih =>
      obtain ⟨fuel, rfl⟩ : ∃ n, fuel = n + 1 := ⟨fuel - 1, by omega⟩
      have hfuel : cs.length < fuel := Nat.lt_of_succ_lt_succ hfuel
      have hleading := leading_escapeBasic hquotes (c :: cs)
      have hfew : leading '"' (escapeBasic true 2 quotes (c :: cs)) < 3 := by omega
      have hclose := closeTriple?_append hfew hrest
      by_cases hall : (escapeBasic true 2 quotes (c :: cs)).all (· = '"') = true
      · -- the quotes at the end belong to the text, and the closing ones follow
        rw [if_pos hall] at hclose
        rw [readTripleBasic?_close fuel hclose, escapeBasic_eq_of_all hall]
      rw [if_neg hall] at hclose
      rw [escapeBasic] at hclose ⊢
      split_ifs at hclose ⊢ with hc hfull
      · rw [List.append_assoc, readTripleBasic?_escapeChar hc, ih (Nat.zero_le 2) hfuel, Found.cons]
      · rw [not_not.mp hc, List.cons_append, List.cons_append,
          readTripleBasic?_escape (by decide) (readEscape?_quote _), ih (Nat.zero_le 2) hfuel,
          Found.cons]
      · rw [List.cons_append] at hclose
        rw [not_not.mp hc, List.cons_append,
          readTripleBasic?_plain (by decide) (by decide) fuel hclose, ih (by omega) hfuel,
          Found.cons]

/-- Between triple single quotes a text without a run of three stands as it is. -/
theorem readTripleLiteral?_append {fuel : Nat} (hrun : longestRun '\'' cs < 3)
    (htext : ∀ c ∈ cs, isTextChar c = true ∨ c = '\n') (hfuel : cs.length < fuel)
    (hrest : rest.head? ≠ some '\'') :
    readTripleLiteral? fuel (cs ++ '\'' :: '\'' :: '\'' :: rest) = some (cs, rest) := by
  suffices ∀ back fuel, back <:+ cs → back.length < fuel →
      readTripleLiteral? fuel (back ++ '\'' :: '\'' :: '\'' :: rest) = some (back, rest) from
    this cs fuel List.suffix_rfl hfuel
  intro back
  induction back with
  | nil =>
      intro fuel _ hfuel
      obtain ⟨fuel, rfl⟩ : ∃ n, fuel = n + 1 := ⟨fuel - 1, by omega⟩
      exact readTripleLiteral?_close fuel (closeTriple?_append (Nat.zero_lt_succ 2) hrest)
  | cons c back ih =>
      intro fuel hback hfuel
      obtain ⟨fuel, rfl⟩ : ∃ n, fuel = n + 1 := ⟨fuel - 1, by omega⟩
      have hnext := ih fuel ((List.suffix_cons c back).trans hback) (Nat.lt_of_succ_lt_succ hfuel)
      have hfew := Nat.lt_of_le_of_lt (leading_le_longestRun hback) hrun
      have hclose := closeTriple?_append hfew hrest
      by_cases hall : (c :: back).all (· = '\'') = true
      · rw [if_pos hall] at hclose
        exact readTripleLiteral?_close fuel hclose
      rw [if_neg hall, List.cons_append] at hclose
      rw [List.cons_append]
      obtain hc | rfl := htext c (hback.subset List.mem_cons_self)
      · rw [readTripleLiteral?, hclose,
          newline?_cons (ne_newline_of_isTextChar hc) (ne_return_of_isTextChar hc)]
        simp only [hc, if_true, hnext, Found.cons]
      · rw [readTripleLiteral?, hclose, newline?]
        simp only [hnext, Found.cons]

/-! ## Any string -/

/-- A quote that two more do not follow opens a string on one line. -/
theorem readString?_line (h : ∀ rest, cs ≠ quote :: quote :: rest) :
    readString? (quote :: cs) = readLineString? (quote :: cs) := by
  unfold readString?
  split <;> simp_all

/-- A line break that opens the text between triple quotes is dropped.  It is written if the text
has one, so the text begins with none where it is not written. -/
theorem skipFirstNewline_open {body : List Char} (h : '\n' ∉ cs → newline? body = none) :
    skipFirstNewline ((if cs.contains '\n' then ['\n'] else []) ++ body) = body := by
  split
  · rfl
  · rename_i hcontains
    rw [List.nil_append, skipFirstNewline, h (by simpa using hcontains), Option.getD_none]

/-- Every character is written with at least one. -/
theorem length_le_escapeBasic (keepNewline : Bool) (maxQuotes quotes : Nat) (cs : List Char) :
    cs.length ≤ (escapeBasic keepNewline maxQuotes quotes cs).length := by
  induction cs generalizing quotes with
  | nil => exact Nat.zero_le _
  | cons c cs ih =>
      rw [escapeBasic]
      split_ifs with hc
      · obtain ⟨d, tail, hescape, -⟩ := escapeChar_eq_cons keepNewline hc
        have := ih 0
        simp only [hescape, List.length_cons, List.length_append]
        omega
      · have := ih 0
        simp only [List.length_cons]
        omega
      · have := ih (quotes + 1)
        simp only [List.length_cons]
        omega

theorem readString?_basic (cs : List Char) (hrest : rest.head? ≠ some '"') :
    readString? ('"' :: (escapeBasic false 0 0 cs ++ '"' :: rest)) =
      some (String.ofList cs, rest) := by
  have hopen : ∀ more, escapeBasic false 0 0 cs ++ '"' :: rest ≠ '"' :: '"' :: more := by
    intro more heq
    cases cs with
    | nil =>
        rw [escapeBasic, List.nil_append, List.cons.injEq] at heq
        exact hrest (by rw [heq.2, List.head?_cons])
    | cons c cs =>
        rw [escapeBasic] at heq
        split_ifs at heq with hc
        · obtain ⟨d, tail, hescape, hd, -⟩ := escapeChar_eq_cons false hc
          rw [hescape] at heq
          exact hd (List.cons.inj heq).1
        · exact absurd (List.cons.inj heq).1 (by decide)
        · exact absurd (Nat.zero_le 0) ‹_›
  have hfuel : cs.length < (escapeBasic false 0 0 cs ++ '"' :: rest).length + 1 := by
    have := length_le_escapeBasic false 0 0 cs
    rw [List.length_append]
    omega
  rw [readString?_line hopen, readLineString?, readBasic?_escapeBasic hfuel]
  rfl

theorem readString?_literal (hne : cs ≠ []) (h : ∀ c ∈ cs, isTextChar c = true ∧ c ≠ '\'') :
    readString? ('\'' :: (cs ++ '\'' :: rest)) = some (String.ofList cs, rest) := by
  have hopen : ∀ more, cs ++ '\'' :: rest ≠ '\'' :: '\'' :: more := by
    intro more heq
    obtain ⟨c, tail, rfl⟩ := List.exists_cons_of_ne_nil hne
    exact (h c List.mem_cons_self).2 (List.cons.inj heq).1
  rw [readString?_line hopen, readLineString?, readLiteral?_append h]
  rfl

theorem readString?_tripleBasic (cs : List Char) (hrest : rest.head? ≠ some '"') :
    readString? (openTriple '"' cs ++ escapeBasic true 2 0 cs ++ '"' :: '"' :: '"' :: rest) =
      some (String.ofList cs, rest) := by
  have hopen : '\n' ∉ cs →
      newline? (escapeBasic true 2 0 cs ++ '"' :: '"' :: '"' :: rest) = none := by
    intro hno
    cases cs with
    | nil => rfl
    | cons c cs =>
        rw [escapeBasic]
        split_ifs with hc
        · obtain ⟨d, tail, hescape, -, hr, hn⟩ := escapeChar_eq_cons true hc
          rw [hescape]
          exact newline?_cons (fun hd => hno (hn hd ▸ List.mem_cons_self)) hr _
        · rfl
        · rfl
  have hfuel : cs.length < ((if cs.contains '\n' then ['\n'] else []) ++
      (escapeBasic true 2 0 cs ++ '"' :: '"' :: '"' :: rest)).length + 1 := by
    have := length_le_escapeBasic true 2 0 cs
    simp only [List.length_append]
    omega
  rw [openTriple, List.append_assoc, List.append_assoc]
  simp only [List.cons_append, List.nil_append, readString?, skipFirstNewline_open hopen,
    readTripleBasic?_escapeBasic (Nat.zero_le 2) hfuel hrest, Option.map_some]

theorem readString?_tripleLiteral (hrun : longestRun '\'' cs < 3)
    (htext : ∀ c ∈ cs, isTextChar c = true ∨ c = '\n') (hrest : rest.head? ≠ some '\'') :
    readString? (openTriple '\'' cs ++ cs ++ '\'' :: '\'' :: '\'' :: rest) =
      some (String.ofList cs, rest) := by
  have hopen : '\n' ∉ cs → newline? (cs ++ '\'' :: '\'' :: '\'' :: rest) = none := by
    intro hno
    cases cs with
    | nil => rfl
    | cons c cs =>
        have hn : c ≠ '\n' := fun hc => hno (hc ▸ List.mem_cons_self)
        have hc := (htext c List.mem_cons_self).resolve_right hn
        exact newline?_cons hn (ne_return_of_isTextChar hc) _
  have hfuel : cs.length < ((if cs.contains '\n' then ['\n'] else []) ++
      (cs ++ '\'' :: '\'' :: '\'' :: rest)).length + 1 := by
    simp only [List.length_append]
    omega
  rw [openTriple, List.append_assoc, List.append_assoc]
  simp only [List.cons_append, List.nil_append, readString?, skipFirstNewline_open hopen,
    readTripleLiteral?_append hrun htext hfuel hrest, Option.map_some]

theorem hasControl_eq_false {allowNewline : Bool} :
    hasControl allowNewline cs = false ↔
      ∀ c ∈ cs, isTextChar c = true ∨ allowNewline = true ∧ c = '\n' := by
  rw [hasControl, List.any_eq_false]
  refine forall₂_congr fun c _ => ?_
  cases isTextChar c <;> simp

/-- A text is written between single quotes only if it holds no single quote and nothing else that
would need an escape. -/
theorem of_stringForm_literal (h : stringForm cs = .literal) :
    cs ≠ [] ∧ ∀ c ∈ cs, isTextChar c = true ∧ c ≠ '\'' := by
  unfold stringForm at h
  split_ifs at h with hbasic hliteral
  simp only [Bool.and_eq_true, Bool.not_eq_true', hasControl_eq_false, Bool.false_eq_true,
    false_and, or_false, List.contains_eq_mem, decide_eq_false_iff_not] at hliteral
  obtain ⟨htext, hquote⟩ := hliteral
  refine ⟨?_, fun c hc => ⟨htext c hc, fun h => hquote (h ▸ hc)⟩⟩
  rintro rfl
  exact hbasic rfl

/-- A text is written between triple single quotes only if it holds no run of three and nothing
else that would need an escape. -/
theorem of_stringForm_tripleLiteral (h : stringForm cs = .tripleLiteral) :
    longestRun '\'' cs < 3 ∧ ∀ c ∈ cs, isTextChar c = true ∨ c = '\n' := by
  unfold stringForm at h
  split_ifs at h with hbasic hliteral htripleBasic htripleLiteral
  simp only [Bool.and_eq_true, Bool.not_eq_true', hasControl_eq_false, true_and,
    decide_eq_true_eq] at htripleLiteral
  exact htripleLiteral.symm

/-- **A written string is read back, whatever follows but another quote.** -/
theorem readString?_writeString (s : String) {rest : List Char} (hdouble : rest.head? ≠ some '"')
    (hsingle : rest.head? ≠ some '\'') :
    readString? (writeString s ++ rest) = some (s, rest) := by
  rw [writeString]
  cases hform : stringForm s.toList with
  | basic => simpa using readString?_basic s.toList hdouble
  | literal =>
      obtain ⟨hne, htext⟩ := of_stringForm_literal hform
      simpa using readString?_literal hne htext
  | tripleBasic => simpa using readString?_tripleBasic s.toList hdouble
  | tripleLiteral =>
      obtain ⟨hrun, htext⟩ := of_stringForm_tripleLiteral hform
      simpa using readString?_tripleLiteral hrun htext hsingle

end HybridRetrieval.Toml
