import HybridRetrieval.Text.CharClass
import HybridRetrieval.Text.LowerCase
/-!
# Lower case, one character at a time

The tables of case and of letters are two tables, so that they fit together has to be looked up.
Each run of capitals is looked at as a whole: its code points and their partners are of one class
(`CaseRun.Sound`), and no partner is a capital of any run (`misses_lowerRuns`).

So every character but U+0130 has one character for its lower case, which is a letter exactly if the
character is and is its own lower case (`lowerChar_settles`).  The lower case of U+0130 is the one
that brings a mark into a word.  A text of characters that are in lower case is its own lower case
(`lowerCaseAfter_of_settled`).
-/

namespace HybridRetrieval

namespace CodeRanges

/-- One of the ranges goes from one code point to another or further. -/
def spans (ranges : CodeRanges) (low high : Nat) : Bool :=
  ranges.any fun range => Nat.ble high range.2 && Nat.ble range.1 low

/-- No range has a code point from one to another. -/
def avoids (ranges : CodeRanges) (low high : Nat) : Bool :=
  ranges.all fun range => !Nat.ble low range.2 || !Nat.ble range.1 high

variable {ranges : CodeRanges} {low high : Nat} {c : Char} (hlow : low ≤ c.toNat)
  (hhigh : c.toNat ≤ high)
include hlow hhigh

theorem contains_of_spans (h : ranges.spans low high = true) : ranges.contains c = true := by
  obtain ⟨range, hrange, hends⟩ := List.any_eq_true.mp h
  simp only [Bool.and_eq_true, Nat.ble_eq] at hends
  refine List.any_eq_true.mpr ⟨range, hrange, ?_⟩
  simp only [Bool.and_eq_true, decide_eq_true_eq]
  omega

theorem contains_of_avoids (h : ranges.avoids low high = true) : ranges.contains c = false := by
  rw [CodeRanges.contains, List.any_eq_false]
  intro range hrange
  have hends := List.all_eq_true.mp h range hrange
  simp only [Bool.or_eq_true, Bool.not_eq_true', ← Bool.not_eq_true, Nat.ble_eq] at hends
  simp only [Bool.and_eq_true, decide_eq_true_eq]
  omega

end CodeRanges

/-! ## Runs of capitals -/

namespace CaseRun

/-- Where the lower case of a code point of the run is. -/
def partner (run : CaseRun) (code : Nat) : Nat := (code + run.offset).toNat

/-- The code points of the run. -/
def codes (run : CaseRun) : List Nat :=
  (List.range (run.last - run.first + 1)).filterMap fun k =>
    if k % run.step == 0 then some (run.first + k) else none

/-- Every code point of the run is in the ranges. -/
def isWithin (run : CaseRun) (ranges : CodeRanges) : Bool :=
  ranges.spans run.first run.last || run.codes.all fun code => ranges.spans code code

/-- The partners of the run are characters other than U+0130.  They are letters if the code points
of the run are, and neither letters nor in ASCII if those are no letters. -/
structure Sound (run : CaseRun) : Prop where
  starts : 0 ≤ run.first + run.offset
  valid : run.partner run.last < 0xd800 ∨
    0xe000 ≤ run.partner run.first ∧ run.partner run.last < 0x110000
  undotted : run.partner run.last < 0x130 ∨ 0x130 < run.partner run.first
  ofOneClass :
    run.isWithin wordRanges = true ∧ CodeRanges.spans ((0x61, 0x7a) :: wordRanges)
        (run.partner run.first) (run.partner run.last) = true ∨
      wordRanges.avoids run.first run.last = true ∧ 128 ≤ run.partner run.first ∧
        wordRanges.avoids (run.partner run.first) (run.partner run.last) = true

instance (run : CaseRun) : Decidable run.Sound :=
  decidable_of_iff (_ ∧ _ ∧ _ ∧ _) ⟨fun ⟨h, h', h'', h'''⟩ => ⟨h, h', h'', h'''⟩,
    fun ⟨h, h', h'', h'''⟩ => ⟨h, h', h'', h'''⟩⟩

/-- All runs are sound. -/
theorem sound_lowerRuns : ∀ run ∈ lowerRuns, run.Sound := by decide +kernel

/-- Whether another run may have an entry for a code point between two, if the code points asked for
are every other one. -/
def meets (run other : CaseRun) : Bool :=
  Nat.ble other.first (run.partner run.last) && (Nat.ble (run.partner run.first) other.last &&
    !(other.step == 2 && (run.step == 2 || run.first == run.last) &&
      (run.partner run.first + other.first) % 2 == 1))

theorem meets_iff {run other : CaseRun} : run.meets other = true ↔
    other.first ≤ run.partner run.last ∧ run.partner run.first ≤ other.last ∧
      ¬(other.step = 2 ∧ (run.step = 2 ∨ run.first = run.last) ∧
        (run.partner run.first + other.first) % 2 = 1) := by
  simp only [meets, Bool.and_eq_true, Nat.ble_eq, Bool.not_eq_true', Bool.and_assoc,
    ← Bool.not_eq_true, Bool.or_eq_true, beq_iff_eq]

/-- No partner has a partner. -/
theorem misses_lowerRuns :
    (lowerRuns.all fun run => lowerRuns.all fun other => !run.meets other) = true := by
  decide +kernel

section Partner

variable {run : CaseRun}

theorem covers_iff {code : Nat} : run.covers code = true ↔
    run.first ≤ code ∧ code ≤ run.last ∧ (code - run.first) % run.step = 0 := by
  simp [covers, and_assoc]

/-- Code points of a run that is within ranges are in the ranges. -/
theorem contains_of_isWithin {ranges : CodeRanges} (h : run.isWithin ranges = true) {c : Char}
    (hc : run.covers c.toNat = true) : ranges.contains c = true := by
  obtain ⟨hfirst, hlast, hstep⟩ := covers_iff.mp hc
  rcases Bool.or_eq_true_iff.mp h with hspans | hcodes
  · exact CodeRanges.contains_of_spans hfirst hlast hspans
  · refine CodeRanges.contains_of_spans (Nat.le_refl _) (Nat.le_refl _)
      (List.all_eq_true.mp hcodes c.toNat ?_)
    refine List.mem_filterMap.mpr ⟨c.toNat - run.first, List.mem_range.mpr (by omega), ?_⟩
    rw [if_pos (beq_iff_eq.mpr hstep), Nat.add_sub_cancel' hfirst]

variable {code : Nat} (hcode : run.covers code = true)
include hcode

/-- The partner is between the partners of the ends. -/
theorem partner_bounds :
    run.partner run.first ≤ run.partner code ∧ run.partner code ≤ run.partner run.last := by
  obtain ⟨hfirst, hlast, -⟩ := covers_iff.mp hcode
  simp only [partner]
  omega

variable (hsound : run.Sound)
include hsound

/-- Partners are as far apart as the code points. -/
theorem partner_eq : run.partner code = run.partner run.first + (code - run.first) := by
  have hfirst := (covers_iff.mp hcode).1
  have hstarts := hsound.starts
  simp only [partner]
  omega

/-- The partner is the code point of a character. -/
theorem toNat_partner : (Char.ofNat (run.partner code)).toNat = run.partner code := by
  obtain ⟨hfirst, hlast⟩ := partner_bounds hcode
  have hvalid := hsound.valid
  have hchar : (run.partner code).isValidChar := by
    simp only [Nat.isValidChar]
    omega
  rw [Char.ofNat, dif_pos hchar]
  rfl

/-- No run has an entry for a partner. -/
theorem covers_partner (hrun : run ∈ lowerRuns) {other : CaseRun} (hother : other ∈ lowerRuns) :
    other.covers (run.partner code) = false := by
  have hmiss : ¬ run.meets other = true := by
    simpa using List.all_eq_true.mp (List.all_eq_true.mp misses_lowerRuns run hrun) other hother
  have heq := partner_eq hcode hsound
  obtain ⟨hlow, hhigh⟩ := partner_bounds hcode
  obtain ⟨hfirst, hlast, hstep⟩ := covers_iff.mp hcode
  rw [← Bool.not_eq_true, covers_iff]
  rintro ⟨hafter, hbefore, hentry⟩
  refine hmiss (meets_iff.mpr ⟨by omega, by omega, ?_⟩)
  -- the partners are those code points between the entries of the other run
  rintro ⟨htwo, hevery, hodd⟩
  rw [htwo] at hentry
  rcases hevery with hsame | hsingle
  · rw [hsame] at hstep
    omega
  · omega

end Partner

end CaseRun

/-! ## Characters -/

section Characters

variable {c : Char}

theorem lowerChar_of_ascii (h : c.toNat < 128) : lowerChar c = [c.toLower] := if_pos h

theorem lowerChar_of_run (h : ¬ c.toNat < 128) (hdot : c ≠ 'İ') {run : CaseRun}
    (hrun : lowerRuns.find? (·.covers c.toNat) = some run) :
    lowerChar c = [Char.ofNat (run.partner c.toNat)] := by
  rw [lowerChar, if_neg h, if_neg hdot, hrun]
  rfl

theorem lowerChar_of_none (h : ¬ c.toNat < 128) (hdot : c ≠ 'İ')
    (hnone : lowerRuns.find? (·.covers c.toNat) = none) : lowerChar c = [c] := by
  rw [lowerChar, if_neg h, if_neg hdot, hnone]

theorem isWordChar_of_not_ascii (h : ¬ c.toNat < 128) :
    isWordChar c = CodeRanges.contains wordRanges c := if_neg h

theorem isUpper_iff_toNat :
    c.isUpper = true ↔ 'A'.toNat ≤ c.toNat ∧ c.toNat ≤ 'Z'.toNat := decide_eq_true_iff

theorem isLower_iff_toNat :
    c.isLower = true ↔ 'a'.toNat ≤ c.toNat ∧ c.toNat ≤ 'z'.toNat :=
  Bool.and_eq_true_iff.trans (and_congr decide_eq_true_iff decide_eq_true_iff)

/-- The letters of ASCII by their codes. -/
theorem isAlpha_iff_toNat : c.isAlpha = true ↔
    ('A'.toNat ≤ c.toNat ∧ c.toNat ≤ 'Z'.toNat) ∨
      ('a'.toNat ≤ c.toNat ∧ c.toNat ≤ 'z'.toNat) :=
  Bool.or_eq_true_iff.trans (or_congr isUpper_iff_toNat isLower_iff_toNat)

/-- In ASCII the lower case is in ASCII, of the same class, and its own lower case. -/
theorem toLower_of_ascii (h : c.toNat < 128) : c.toLower.toNat < 128 ∧
    c.toLower.isAlphanum = c.isAlphanum ∧ c.toLower.toLower = c.toLower := by
  have hall : ∀ code < 128, (Char.ofNat code).toLower.toNat < 128 ∧
      (Char.ofNat code).toLower.isAlphanum = (Char.ofNat code).isAlphanum ∧
      (Char.ofNat code).toLower.toLower = (Char.ofNat code).toLower := by decide
  have hc := hall c.toNat h
  rwa [Char.ofNat_toNat] at hc

/-- A small letter of ASCII is a letter, and its own lower case. -/
theorem lowerChar_of_small (h : 0x61 ≤ c.toNat ∧ c.toNat ≤ 0x7a) :
    isWordChar c = true ∧ lowerChar c = [c] := by
  have hall : ∀ code < 128, 0x61 ≤ code → code ≤ 0x7a →
      isWordChar (Char.ofNat code) = true ∧
        lowerChar (Char.ofNat code) = [Char.ofNat code] := by decide
  have hc := hall c.toNat (by omega) h.1 h.2
  rwa [Char.ofNat_toNat] at hc

/-- The letters beyond ASCII are beyond ASCII. -/
theorem not_ascii_of_contains (h : CodeRanges.contains wordRanges c = true) :
    ¬ c.toNat < 128 := by
  have hall : (wordRanges.all fun range => Nat.ble 128 range.1) = true := by decide +kernel
  obtain ⟨range, hrange, hc⟩ := List.any_eq_true.mp h
  have hlow := Nat.le_of_ble_eq_true (List.all_eq_true.mp hall range hrange)
  simp only [Bool.and_eq_true, decide_eq_true_eq] at hc
  omega

/-- The partner of a character is of its class, and its own lower case. -/
theorem lowerChar_partner (h : ¬ c.toNat < 128) {run : CaseRun}
    (hrun : lowerRuns.find? (·.covers c.toNat) = some run) :
    isWordChar (Char.ofNat (run.partner c.toNat)) = isWordChar c ∧
      lowerChar (Char.ofNat (run.partner c.toNat)) = [Char.ofNat (run.partner c.toNat)] := by
  have hmem := List.mem_of_find?_eq_some hrun
  have hcovers : run.covers c.toNat = true :=
    List.find?_some (p := fun other : CaseRun => other.covers c.toNat) hrun
  have hsound := CaseRun.sound_lowerRuns run hmem
  obtain ⟨d, hd⟩ : ∃ d, d = Char.ofNat (run.partner c.toNat) := ⟨_, rfl⟩
  have hcode : d.toNat = run.partner c.toNat := by rw [hd, CaseRun.toNat_partner hcovers hsound]
  obtain ⟨hlow, hhigh⟩ := CaseRun.partner_bounds hcovers
  rw [← hcode] at hlow hhigh
  rw [← hd]
  have hself : ¬ d.toNat < 128 → lowerChar d = [d] := by
    intro hbig
    refine lowerChar_of_none hbig ?_ (List.find?_eq_none.mpr fun other hother => ?_)
    · rintro rfl
      have hdot : 'İ'.toNat = 0x130 := rfl
      have hundotted := hsound.undotted
      omega
    · rw [hcode, CaseRun.covers_partner hcovers hsound hmem hother]
      exact Bool.false_ne_true
  rw [isWordChar_of_not_ascii h]
  rcases hsound.ofOneClass with ⟨hwithin, hspans⟩ | ⟨havoids, hbig, hmissed⟩
  · rw [CaseRun.contains_of_isWithin hwithin hcovers]
    have hletter := CodeRanges.contains_of_spans hlow hhigh hspans
    rw [CodeRanges.contains, List.any_cons, Bool.or_eq_true] at hletter
    rcases hletter with hsmall | hletter
    · exact lowerChar_of_small (by simpa using hsmall)
    · have hbig := not_ascii_of_contains hletter
      exact ⟨(isWordChar_of_not_ascii hbig).trans hletter, hself hbig⟩
  · obtain ⟨hfirst, hlast, -⟩ := CaseRun.covers_iff.mp hcovers
    have hnone : ¬ d.toNat < 128 := by omega
    rw [CodeRanges.contains_of_avoids hfirst hlast havoids, isWordChar_of_not_ascii hnone]
    exact ⟨CodeRanges.contains_of_avoids hlow hhigh hmissed, hself hnone⟩

/-- **The lower case of a character** other than U+0130 is one character, of the same class, that is
its own lower case. -/
theorem lowerChar_settles (hdot : c ≠ 'İ') :
    ∃ d, lowerChar c = [d] ∧ isWordChar d = isWordChar c ∧ lowerChar d = [d] := by
  by_cases h : c.toNat < 128
  · obtain ⟨hsmall, hclass, hself⟩ := toLower_of_ascii h
    refine ⟨c.toLower, lowerChar_of_ascii h, ?_, ?_⟩
    · rw [isWordChar, isWordChar, if_pos hsmall, if_pos h, hclass]
    · rw [lowerChar_of_ascii hsmall, hself]
  · cases hrun : lowerRuns.find? (·.covers c.toNat) with
    | none => exact ⟨c, lowerChar_of_none h hdot hrun, rfl, lowerChar_of_none h hdot hrun⟩
    | some run => exact ⟨_, lowerChar_of_run h hdot hrun, lowerChar_partner h hrun⟩

/-- The lower case of U+0130 has a dot of its own, a mark. -/
theorem lowerChar_dotted : lowerChar 'İ' = ['i', '\u0307'] := by decide

/-- The letter with a dot is a letter, and its dot a mark without case. -/
theorem dotted_classes :
    isWordChar 'İ' = true ∧ isWordChar '\u0307' = false ∧ lowerChar '\u0307' = ['\u0307'] := by
  decide +kernel

/-- The forms of sigma are letters, of which the small ones are their own lower case. -/
theorem sigma_classes :
    (isWordChar 'Σ' = true ∧ lowerChar 'Σ' = ['σ']) ∧
      (isWordChar 'σ' = true ∧ lowerChar 'σ' = ['σ']) ∧
      isWordChar 'ς' = true ∧ lowerChar 'ς' = ['ς'] := by
  decide +kernel

/-- **In its place in a text** a character other than U+0130 has one character for its lower
case. -/
theorem lowerCharIn_settles (hdot : c ≠ 'İ') (before after : List Char) :
    ∃ d, lowerCharIn before c after = [d] ∧ isWordChar d = isWordChar c ∧ lowerChar d = [d] := by
  unfold lowerCharIn
  split
  · rename_i hsigma
    obtain ⟨⟨hcapital, -⟩, ⟨hmedial, hmedial'⟩, hfinal, hfinal'⟩ := sigma_classes
    rw [hsigma, hcapital]
    split
    · exact ⟨'ς', rfl, hfinal, hfinal'⟩
    · exact ⟨'σ', rfl, hmedial, hmedial'⟩
  · exact lowerChar_settles hdot

end Characters

/-! ## Texts -/

/-- The lower case of a text is made of characters that are their own lower case. -/
theorem lowerChar_of_mem_lowerCaseAfter {before cs : List Char} {d : Char}
    (h : d ∈ lowerCaseAfter before cs) : lowerChar d = [d] := by
  induction cs generalizing before with
  | nil => cases h
  | cons c rest ih =>
      rw [lowerCaseAfter, List.mem_append] at h
      rcases h with h | h
      · by_cases hdot : c = 'İ'
        · rw [hdot, lowerCharIn, if_neg (by decide), lowerChar_dotted] at h
          rw [List.mem_cons, List.mem_singleton] at h
          rcases h with rfl | rfl
          · rfl
          · exact dotted_classes.2.2
        · obtain ⟨e, he, -, hself⟩ := lowerCharIn_settles hdot before rest
          rw [he, List.mem_singleton] at h
          rw [h, hself]
      · exact ih h

/-- A text of characters that are their own lower case is its own lower case. -/
theorem lowerCaseAfter_of_settled {cs : List Char} (h : ∀ c ∈ cs, lowerChar c = [c])
    (before : List Char) : lowerCaseAfter before cs = cs := by
  induction cs generalizing before with
  | nil => rfl
  | cons c rest ih =>
      have hc : lowerChar c = [c] := h c List.mem_cons_self
      have hsigma : c ≠ 'Σ' := by
        rintro rfl
        exact absurd (sigma_classes.1.2.symm.trans hc) (by decide)
      rw [lowerCaseAfter, lowerCharIn, if_neg hsigma, hc,
        ih (fun d hd => h d (List.mem_cons_of_mem _ hd)), List.singleton_append]

end HybridRetrieval
