import HybridRetrieval.Proofs.Filter.Characters
import HybridRetrieval.Proofs.Json.StringText
/-!
# Which labels a key means

Reading the label of a member gives the characters of its name (`codes_escape`), whatever was
escaped in it.  So a key without a backslash means the name that equals it up to the first NUL
(`matchesKey_escape_iff`).  In a key with a backslash an escape is read that was never written: such
a key never means its own name (`codes_ne_of_backslash`).
-/

namespace HybridRetrieval.Label

open Json

/-! ## Labels -/

/-- Only a backslash begins an escaped line break. -/
theorem skipContinuations_of_ne {b : Nat} (h : b ≠ 0x5c) (rest : List Nat) :
    skipContinuations (b :: rest) = b :: rest := by
  unfold skipContinuations
  split <;> simp_all

/-- A backslash before another byte than one that begins a line break stays. -/
theorem skipContinuations_backslash {b : Nat} (hcr : b ≠ 0x0d) (hlf : b ≠ 0x0a) (hsep : b ≠ 0xe2)
    (rest : List Nat) : skipContinuations (0x5c :: b :: rest) = 0x5c :: b :: rest := by
  unfold skipContinuations
  split <;> simp_all

/-- A one-letter escape is read as the character it stands for. -/
theorem readEscape_letter {letter c : Char} (h : Text.shortEscape? letter = some c)
    (rest : List Nat) : readEscape (letter.toNat :: rest) = (c.toNat, rest) := by
  unfold Text.shortEscape? at h
  split at h
  · obtain rfl := Option.some.inj h
    rename_i hself
    rcases hself with rfl | rfl | rfl <;> rfl
  · repeat' split at h
    all_goals first | (obtain rfl := Option.some.inj h; subst letter; rfl) | cases h

/-- A numeric escape that opens no surrogate pair is read alone. -/
theorem readEscape_unit {a b c d : Nat} (h : isLead (digitsValue [a, b, c, d]) = false)
    (rest : List Nat) : readEscape (0x75 :: a :: b :: c :: d :: rest) =
      (digitsValue [a, b, c, d], rest) := by
  simp only [readEscape]
  split <;> simp [h]

/-- The escape of a control character is read as its code. -/
theorem readEscape_control {code : Nat} (hcode : code < 0x20) (rest : List Nat) :
    readEscape (0x75 :: 0x30 :: 0x30 :: ((Hex.fixed 2 code).map Char.toNat ++ rest)) =
      (code, rest) := by
  have hvalue : ∀ n < 0x20, ∃ a b, (Hex.fixed 2 n).map Char.toNat = [a, b] ∧
      digitsValue [0x30, 0x30, a, b] = n := by
    intro n hn
    refine ⟨_, _, rfl, ?_⟩
    revert n
    decide
  obtain ⟨a, b, hfixed, hdigits⟩ := hvalue code hcode
  have hlead : isLead code = false := by
    rw [isLead, beq_eq_false_iff_ne]
    omega
  have hread := readEscape_unit (hdigits.symm ▸ hlead) rest
  rw [hdigits] at hread
  rw [hfixed]
  exact hread

/-- The bytes of characters below 128 are their codes. -/
theorem bytes_of_ascii {cs : List Char} (h : ∀ c ∈ cs, c.toNat < 0x80) :
    bytes cs = cs.map Char.toNat := by
  induction cs with
  | nil => rfl
  | cons c cs ih =>
      obtain ⟨-, hbytes⟩ | ⟨hlarge, -⟩ := bytes_singleton_cases c
      · rw [bytes_cons, hbytes, ih fun d hd => h d (List.mem_cons_of_mem _ hd)]
        rfl
      · have hsmall := h c List.mem_cons_self
        omega

/-- Behind a backslash an escape is read. -/
theorem escapedCodes_backslash {b : Nat} (hcr : b ≠ 0x0d) (hlf : b ≠ 0x0a) (hsep : b ≠ 0xe2)
    (fuel : Nat) (rest : List Nat) :
    escapedCodes (fuel + 1) (0x5c :: b :: rest) =
      (readEscape (b :: rest)).1 :: escapedCodes fuel (readEscape (b :: rest)).2 := by
  simp only [escapedCodes, skipContinuations_backslash hcr hlf hsep]

/-- Without a backslash a character is read. -/
theorem escapedCodes_of_ne {b : Nat} (h : b ≠ 0x5c) (fuel : Nat) (rest : List Nat) :
    escapedCodes (fuel + 1) (b :: rest) =
      (readCode b rest).1 :: escapedCodes fuel (readCode b rest).2 := by
  rw [escapedCodes, skipContinuations_of_ne h]
  simp

/-- A character other than the backslash does not begin with that byte. -/
theorem bytes_cons_of_ne {c : Char} (h : c ≠ '\\') (cs : List Char) :
    ∃ b rest, bytes (c :: cs) = b :: rest ∧ b ≠ 0x5c := by
  rw [bytes_cons]
  obtain ⟨-, hbytes⟩ | ⟨-, lead, tail, hbytes, hlead, -⟩ := bytes_singleton_cases c
  · refine ⟨c.toNat, bytes cs, by rw [hbytes]; rfl, fun hcode => h ?_⟩
    rw [← Char.ofNat_toNat c, hcode]
  · exact ⟨lead, tail ++ bytes cs, by rw [hbytes]; rfl, by omega⟩

/-- What stands for a character in a label is read as that character. -/
theorem escapedCodes_escapeChar (fuel : Nat) (c : Char) (cs : List Char) :
    escapedCodes (fuel + 1) (bytes (Text.escapeChar c ++ cs)) =
      c.toNat :: escapedCodes fuel (bytes cs) := by
  obtain ⟨letter, hescape, -, hshort⟩ | ⟨hcontrol, hescape⟩ |
    ⟨hescape, -, hbackslash, -⟩ := Text.escapeChar_cases c
  · have hletter : letter ∈ ['"', '\\', '/', 'b', 'f', 'n', 'r', 't'] := by
      unfold Text.shortEscape? at hshort
      grind
    have hcode : letter.toNat < 0x80 ∧ letter.toNat ≠ 0x0d ∧ letter.toNat ≠ 0x0a := by
      simp only [List.mem_cons, List.not_mem_nil, or_false] at hletter
      rcases hletter with rfl | rfl | rfl | rfl | rfl | rfl | rfl | rfl <;> decide
    rw [hescape, bytes_append, bytes_of_ascii (by simp [hcode.1])]
    change escapedCodes (fuel + 1) (0x5c :: letter.toNat :: bytes cs) = _
    rw [escapedCodes_backslash hcode.2.1 hcode.2.2 (by omega), readEscape_letter hshort]
  · have hdigits : (Hex.fixed 2 c.toNat).all (fun d => decide (d.toNat < 0x80)) = true :=
      (show ∀ code < 0x20, (Hex.fixed 2 code).all (fun d => decide (d.toNat < 0x80)) = true
        by decide) _ hcontrol
    rw [hescape, bytes_append, bytes_of_ascii (by simpa using hdigits)]
    change escapedCodes (fuel + 1) (0x5c :: 0x75 :: 0x30 :: 0x30 ::
      ((Hex.fixed 2 c.toNat).map Char.toNat ++ bytes cs)) = _
    rw [escapedCodes_backslash (by decide) (by decide) (by decide), readEscape_control hcontrol]
  · obtain ⟨b, rest, hbytes, hb⟩ := bytes_cons_of_ne hbackslash cs
    rw [hescape, List.singleton_append, hbytes, escapedCodes_of_ne hb, readCode_bytes hbytes]

/-- A string without a backslash in its label is its own label. -/
theorem escape_of_not_hasEscape {cs : List Char} (h : hasEscape (Text.escape cs) = false) :
    Text.escape cs = cs := by
  induction cs with
  | nil => rfl
  | cons c cs ih =>
      rw [Text.escape, List.flatMap_cons, ← Text.escape] at h ⊢
      simp only [hasEscape, List.contains_eq_mem, List.mem_append, decide_eq_false_iff_not,
        not_or] at h
      rw [ih (by simpa [hasEscape] using h.2)]
      obtain ⟨letter, hescape, -⟩ | ⟨-, hescape⟩ | ⟨hescape, -⟩ := Text.escapeChar_cases c
      · exact absurd (by simp [hescape]) h.1
      · exact absurd (by simp [hescape]) h.1
      · rw [hescape, List.singleton_append]

/-- **A label is read as the characters that it was written for**, whether it has escapes or not. -/
theorem codes_escape (cs : List Char) : codes (Text.escape cs) = cs.map Char.toNat := by
  have hescaped : ∀ (cs : List Char) fuel, (bytes (Text.escape cs)).length ≤ fuel →
      escapedCodes fuel (bytes (Text.escape cs)) = cs.map Char.toNat := by
    intro cs
    induction cs with
    | nil => intro fuel _; cases fuel <;> rfl
    | cons c cs ih =>
        intro fuel hfuel
        rw [Text.escape, List.flatMap_cons, ← Text.escape] at hfuel ⊢
        rw [bytes_append, List.length_append] at hfuel
        have hpositive : 0 < (bytes (Text.escapeChar c)).length := by
          obtain ⟨letter, hescape, -⟩ | ⟨-, hescape⟩ | ⟨hescape, -⟩ := Text.escapeChar_cases c
          all_goals
            rw [hescape]
            obtain ⟨b, rest, hbytes, -⟩ := exists_bytes_cons _ _
            rw [hbytes]
            exact Nat.succ_pos _
        obtain ⟨less, rfl⟩ := Nat.exists_eq_add_one_of_ne_zero (show fuel ≠ 0 by omega)
        rw [escapedCodes_escapeChar, ih less (by omega), List.map_cons]
  unfold codes
  split
  · exact hescaped cs _ (Nat.le_refl _)
  · rename_i hplain
    rw [escape_of_not_hasEscape (Bool.eq_false_iff.mpr hplain)]

/-! ## Keys with a backslash -/

/-- The backslash and the letters behind it from which any code can be read. -/
def isMark (code : Nat) : Bool := code == 0x5c || code == 0x75 || code == 0x78

/-- How many of them there are. -/
def marks (codes : List Nat) : Nat := codes.countP isMark

theorem marks_append (first second : List Nat) :
    marks (first ++ second) = marks first + marks second := List.countP_append

theorem marks_cons_backslash (rest : List Nat) : marks (0x5c :: rest) = marks rest + 1 :=
  List.countP_cons_of_pos rfl

theorem marks_cons (code : Nat) (rest : List Nat) :
    marks (code :: rest) = marks [code] + marks rest :=
  marks_append [code] rest

theorem marks_pos_of_backslash {codes : List Nat} (h : 0x5c ∈ codes) : 0 < marks codes :=
  List.countP_pos_iff.mpr ⟨0x5c, h, rfl⟩

/-- No mark is beyond 127. -/
theorem marks_eq_zero {codes : List Nat} (h : ∀ code ∈ codes, 0x80 ≤ code) : marks codes = 0 := by
  refine List.countP_eq_zero.mpr fun code hcode hmark => ?_
  have hlarge := h code hcode
  simp only [isMark, Bool.or_eq_true, beq_iff_eq] at hmark
  omega

/-- The bytes of a character have the marks that its code has. -/
theorem marks_bytes_singleton (c : Char) : marks (bytes [c]) = marks [c.toNat] := by
  obtain ⟨-, hbytes⟩ | ⟨hcode, lead, tail, hbytes, hlead, -, htail, -⟩ := bytes_singleton_cases c
  · rw [hbytes]
  · have hlarge : ∀ b ∈ lead :: tail, 0x80 ≤ b := by
      intro b hb
      rcases List.mem_cons.mp hb with rfl | hb
      · omega
      · have hcontinues := htail b hb
        rw [isContinuation, beq_iff_eq] at hcontinues
        omega
    rw [hbytes, marks_eq_zero hlarge, marks_eq_zero (by simpa using hcode)]

/-- A text has the same marks as bytes. -/
theorem marks_bytes (cs : List Char) : marks (bytes cs) = marks (cs.map Char.toNat) := by
  induction cs with
  | nil => rfl
  | cons c cs ih =>
      rw [bytes_cons, marks_append, marks_bytes_singleton, ih, List.map_cons, ← marks_cons]

/-- What is skipped as escaped line breaks has marks, unless nothing is. -/
theorem skipContinuations_spec (bs : List Nat) :
    ∃ skipped, bs = skipped ++ skipContinuations bs ∧ (skipped = [] ∨ 0 < marks skipped) := by
  have hmore : ∀ (front : List Nat) {rest : List Nat}, 0x5c ∈ front →
      (∃ skipped, rest = skipped ++ skipContinuations rest ∧ (skipped = [] ∨ 0 < marks skipped)) →
      ∃ skipped, front ++ rest = skipped ++ skipContinuations rest ∧
        (skipped = [] ∨ 0 < marks skipped) := by
    rintro front rest hfront ⟨skipped, hskipped, -⟩
    refine ⟨front ++ skipped, by rw [List.append_assoc, ← hskipped], .inr ?_⟩
    exact marks_pos_of_backslash (List.mem_append_left _ hfront)
  fun_induction skipContinuations bs with
  | case1 rest ih => exact hmore [0x5c, 0x0d, 0x0a] (by simp) ih
  | case2 rest _ ih => exact hmore [0x5c, 0x0d] (by simp) ih
  | case3 rest ih => exact hmore [0x5c, 0x0a] (by simp) ih
  | case4 rest ih => exact hmore [0x5c, 0xe2, 0x80, 0xa8] (by simp) ih
  | case5 rest ih => exact hmore [0x5c, 0xe2, 0x80, 0xa9] (by simp) ih
  | case6 bs => exact ⟨[], rfl, .inl rfl⟩

/-- A one-letter escape that is read as a mark is the mark itself. -/
theorem isMark_of_shortCode? {b code : Nat} (h : shortCode? b = some code)
    (hmark : isMark code = true) : isMark b = true := by
  have hcode : code = b ∨ code ∈ [8, 12, 10, 13, 9, 11, 0] := by
    unfold shortCode? at h
    grind
  rcases hcode with rfl | hcode
  · exact hmark
  · have hplain := (show ∀ c ∈ [8, 12, 10, 13, 9, 11, 0], isMark c = false by decide) code hcode
    exact absurd hmark (Bool.eq_false_iff.mp hplain)

/-- What stands behind a backslash has no fewer marks than the code that is read from it. -/
theorem readEscape_spec (bs : List Nat) : ∃ taken, bs = taken ++ (readEscape bs).2 ∧
    marks [(readEscape bs).1] ≤ marks taken := by
  have hmarked : ∀ {code b : Nat} {taken : List Nat}, b ∈ taken →
      (isMark code = true → isMark b = true) → marks [code] ≤ marks taken := by
    intro code b taken hb himp
    cases hmark : isMark code with
    | false => simp [marks, hmark]
    | true =>
        have hpos : 0 < marks taken := List.countP_pos_iff.mpr ⟨b, hb, himp hmark⟩
        simpa [marks, hmark] using hpos
  fun_cases readEscape bs with
  | case1 => exact ⟨[], rfl, by decide⟩
  | case2 a b c d unit e f g h more trail hpair =>
      exact ⟨[0x75, a, b, c, d, 0x5c, 0x75, e, f, g, h], rfl,
        hmarked (b := 0x75) (by simp) fun _ => rfl⟩
  | case3 a b c d unit e f g h more trail hpair =>
      exact ⟨[0x75, a, b, c, d], rfl, hmarked (b := 0x75) (by simp) fun _ => rfl⟩
  | case4 a b c d rest unit hpair =>
      exact ⟨[0x75, a, b, c, d], rfl, hmarked (b := 0x75) (by simp) fun _ => rfl⟩
  | case5 tail => exact ⟨0x75 :: tail, by simp, hmarked (b := 0x75) (by simp) fun _ => rfl⟩
  | case6 a b rest => exact ⟨[0x78, a, b], rfl, hmarked (b := 0x78) (by simp) fun _ => rfl⟩
  | case7 tail => exact ⟨0x78 :: tail, by simp, hmarked (b := 0x78) (by simp) fun _ => rfl⟩
  | case8 b rest _ _ _ _ code hcode =>
      exact ⟨[b], rfl, hmarked (b := b) (by simp) (isMark_of_shortCode? hcode)⟩
  | case9 b rest =>
      have hinvalid : isMark invalidCode = true → isMark b = true := (absurd · (by decide))
      split
      · exact ⟨b :: rest, by simp, hmarked List.mem_cons_self hinvalid⟩
      · exact ⟨[b], rfl, hmarked List.mem_cons_self hinvalid⟩

/-- What is read as a character has no fewer marks than its code, and no backslash. -/
theorem readCode_spec {cs : List Char} {b : Nat} {rest : List Nat} (h : b :: rest <:+ bytes cs)
    (hb : b ≠ 0x5c) : ∃ taken, b :: rest = taken ++ (readCode b rest).2 ∧
      marks [(readCode b rest).1] ≤ marks taken ∧ 0x5c ∉ taken := by
  cases hcontinues : isContinuation b with
  | true =>
      rw [isContinuation, beq_iff_eq] at hcontinues
      rw [readCode, if_pos (by omega)]
      exact ⟨[b], rfl, Nat.le_refl _, by simpa using Ne.symm hb⟩
  | false =>
      obtain ⟨c, ds, hbytes⟩ := exists_char_of_suffix h hcontinues
      rw [readCode_bytes hbytes.symm, hbytes, bytes_cons]
      refine ⟨bytes [c], rfl, Nat.le_of_eq (marks_bytes_singleton c).symm, ?_⟩
      rw [bytes_cons] at hbytes
      obtain ⟨-, hchar⟩ | ⟨-, lead, tail, hchar, hlead, -, htail, -⟩ := bytes_singleton_cases c
      · rw [hchar] at hbytes ⊢
        obtain ⟨rfl, -⟩ := List.cons.inj hbytes
        simpa using Ne.symm hb
      · rw [hchar]
        intro hmem
        rcases List.mem_cons.mp hmem with rfl | hmem
        · omega
        · exact absurd (htail _ hmem) (by decide)

/-- **Reading escapes loses marks**: with each escape the one of its backslash. -/
theorem marks_escapedCodes {cs : List Char} (fuel : Nat) {bs : List Nat} (h : bs <:+ bytes cs) :
    marks (escapedCodes fuel bs) ≤ marks bs ∧
      (0x5c ∈ bs → marks (escapedCodes fuel bs) < marks bs) := by
  induction fuel generalizing bs with
  | zero => exact ⟨Nat.zero_le _, marks_pos_of_backslash⟩
  | succ fuel ih =>
      obtain ⟨skipped, hskipped, hmarks⟩ := skipContinuations_spec bs
      have hsuffix : skipContinuations bs <:+ bytes cs := .trans ⟨skipped, hskipped.symm⟩ h
      have htotal : marks bs = marks skipped + marks (skipContinuations bs) := by
        rw [← marks_append, ← hskipped]
      rw [escapedCodes]
      split
      · exact ⟨Nat.zero_le _, marks_pos_of_backslash⟩
      · rename_i rest heq
        obtain ⟨taken, htaken, hcode⟩ := readEscape_spec rest
        have hbehind : (readEscape rest).2 <:+ bytes cs := .trans ⟨0x5c :: taken, by
          rw [heq, List.cons_append, ← htaken]⟩ hsuffix
        have hrest := (ih hbehind).1
        have hsum : marks rest = marks taken + marks (readEscape rest).2 := by
          rw [← marks_append, ← htaken]
        rw [heq, marks_cons_backslash] at htotal
        rw [marks_cons]
        omega
      · rename_i b rest hb heq
        rw [heq] at hsuffix htotal hskipped
        obtain ⟨taken, htaken, hcode, hplain⟩ := readCode_spec hsuffix (by
          rintro rfl
          exact hb rfl)
        have hbehind : (readCode b rest).2 <:+ bytes cs := .trans ⟨taken, htaken.symm⟩ hsuffix
        have hrest := ih hbehind
        have hsum : marks (b :: rest) = marks taken + marks (readCode b rest).2 := by
          rw [← marks_append, ← htaken]
        rw [marks_cons]
        refine ⟨by omega, fun hmem => ?_⟩
        rcases hmarks with rfl | hmarks
        · rw [hskipped, List.nil_append, htaken] at hmem
          have hless := hrest.2 ((List.mem_append.mp hmem).resolve_left hplain)
          omega
        · omega

/-- **A key with a backslash is not read as itself.** -/
theorem codes_ne_of_backslash {key : List Char} (h : '\\' ∈ key) :
    (codes key).takeWhile (· ≠ 0) ≠ key.map Char.toNat := by
  have hescape : hasEscape key = true := by simpa [hasEscape] using h
  have hbackslash : 0x5c ∈ bytes key := by
    obtain ⟨before, after, rfl⟩ := List.append_of_mem h
    rw [bytes_append, bytes_cons]
    exact List.mem_append_right _ (List.mem_append_left _ (by decide))
  have hless := (marks_escapedCodes (bytes key).length (List.suffix_refl _)).2 hbackslash
  intro heq
  have hmarks := congrArg marks heq
  rw [codes, hescape, if_pos rfl, ← marks_bytes] at hmarks
  have hsub := List.Sublist.countP_le (p := isMark)
    (List.takeWhile_sublist (l := escapedCodes (bytes key).length (bytes key)) (· ≠ 0))
  rw [← marks, ← marks] at hsub
  omega

/-! ## Which names a key means -/

/-- The codes of a text up to the first zero are those of its characters up to the first NUL. -/
theorem takeWhile_toNat (cs : List Char) :
    (cs.map Char.toNat).takeWhile (· ≠ 0) = (cs.takeWhile (· ≠ '\x00')).map Char.toNat := by
  have hnul : ∀ c : Char, c.toNat = 0 ↔ c = '\x00' := by
    refine fun c => ⟨fun h => ?_, fun h => h ▸ rfl⟩
    rw [← Char.ofNat_toNat c, h]
  rw [List.takeWhile_map]
  simp only [Function.comp_def, ne_eq, hnul]

/-- **A key without a backslash means the names that equal it up to their first NUL.** -/
theorem matchesKey_escape_iff {key : List Char} (hbackslash : '\\' ∉ key) (hnul : '\x00' ∉ key)
    (name : List Char) :
    matchesKey key (Text.escape name) = true ↔ name.takeWhile (· ≠ '\x00') = key := by
  have hkey : hasEscape key = false := by simpa [hasEscape] using hbackslash
  rw [matchesKey, hkey, Bool.false_or]
  split
  · rw [beq_iff_eq, codes_escape, takeWhile_toNat, codes, hkey, if_neg Bool.false_ne_true,
      takeWhile_toNat, takeWhile_of_nul_notMem hnul,
      List.map_inj_right fun _ _ => Char.toNat_inj.mp]
    exact eq_comm
  · rename_i hplain
    have hname : '\x00' ∉ name := by
      intro hmem
      refine hplain ?_
      rw [hasEscape, List.contains_iff_mem, Text.escape, List.mem_flatMap]
      exact ⟨_, hmem, by decide⟩
    rw [escape_of_not_hasEscape (Bool.eq_false_iff.mpr hplain), takeWhile_of_nul_notMem hname,
      beq_iff_eq]
    exact eq_comm

/-- **A key with a backslash means no name that equals it**, not even up to a NUL. -/
theorem ne_of_matchesKey {key name : List Char} (hbackslash : '\\' ∈ key)
    (h : matchesKey key (Text.escape name) = true) : name.takeWhile (· ≠ '\x00') ≠ key := by
  rintro rfl
  refine codes_ne_of_backslash hbackslash ?_
  have hescape : hasEscape (name.takeWhile (· ≠ '\x00')) = true := by
    simpa [hasEscape] using hbackslash
  rw [matchesKey, hescape, Bool.true_or, if_pos rfl, beq_iff_eq, codes_escape, takeWhile_toNat] at h
  exact h

end HybridRetrieval.Label
