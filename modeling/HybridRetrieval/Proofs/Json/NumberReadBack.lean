import HybridRetrieval.Proofs.Json.NumberText
import HybridRetrieval.Proofs.Number.Arithmetic
/-!
# Numbers read back

The reader makes a number of every number's text (`Json.Number.ofText?_text`).  An integer comes
back as itself.  A floating-point number may come back as a neighbour, because the reader rounds the
significand, the power of ten and their product one after the other; but it never overflows, for the
shortest decimal is at most half a last bit above the number, and the two largest numbers are read
by computation.
-/

namespace HybridRetrieval

open Json BinaryFormat

namespace Json.Number

/-- What is kept of the digits fits 64 bits, and what is left over counts as powers of ten that are
not more than the digits say. -/
theorem extendSignificand_bounds (cs : List Char) {significand : Nat}
    (h : significand ≤ maxSignificand) :
    (extendSignificand significand cs).1 ≤ maxSignificand ∧
      (extendSignificand significand cs).2 ≤ cs.length ∧
      (extendSignificand significand cs).1 * 10 ^ (extendSignificand significand cs).2 ≤
        Nat.ofDigitChars 10 cs significand := by
  induction cs generalizing significand with
  | nil => simp [extendSignificand, h]
  | cons c cs ih =>
      unfold extendSignificand
      simp only
      split
      · rename_i hfits
        obtain ⟨hmax, hlength, hvalue⟩ := ih hfits
        rw [Nat.ofDigitChars_cons]
        exact ⟨hmax, Nat.le_succ_of_le hlength, hvalue⟩
      · refine ⟨h, le_rfl, ?_⟩
        rw [Nat.ofDigitChars_eq_ofDigitChars_zero, Nat.mul_comm]
        exact Nat.le_add_right _ _

/-- Digits whose number fits 64 bits are all kept. -/
theorem extendSignificand_of_le (cs : List Char) {significand : Nat}
    (h : Nat.ofDigitChars 10 cs significand ≤ maxSignificand) :
    extendSignificand significand cs = (Nat.ofDigitChars 10 cs significand, 0) := by
  induction cs generalizing significand with
  | nil => simp [extendSignificand]
  | cons c cs ih =>
      rw [Nat.ofDigitChars_cons] at h ⊢
      have hnext : 10 * significand + (c.toNat - '0'.toNat) ≤ maxSignificand := by
        refine le_trans ?_ h
        rw [Nat.ofDigitChars_eq_ofDigitChars_zero]
        exact le_trans (Nat.le_mul_of_pos_left _ (Nat.pow_pos (by decide))) (Nat.le_add_right _ _)
      rw [extendSignificand]
      simp only [hnext, if_true]
      exact ih h

/-- A run of digits spells less than the power of ten of its length. -/
theorem ofDigitChars_lt {cs : List Char} (h : IsDigits cs) :
    Decimal.ofDigitChars cs < 10 ^ cs.length := by
  induction cs with
  | nil => decide
  | cons c cs ih =>
      have hc : c.toNat - '0'.toNat ≤ 9 := by
        have := (Char.isDigit_iff_toNat.mp (h c List.mem_cons_self)).2
        simp only [Char.reduceToNat] at this ⊢
        omega
      have hrest := ih fun d hd => h d (List.mem_cons_of_mem c hd)
      rw [← List.singleton_append, Decimal.ofDigitChars_append, List.length_append, pow_add]
      have hfirst : Decimal.ofDigitChars [c] = c.toNat - '0'.toNat := by
        simp [Decimal.ofDigitChars]
      rw [hfirst]
      calc 10 ^ cs.length * (c.toNat - '0'.toNat) + Decimal.ofDigitChars cs
          < 10 ^ cs.length * 9 + 10 ^ cs.length := by
            have := Nat.mul_le_mul_left (10 ^ cs.length) hc
            omega
        _ = 10 ^ [c].length * 10 ^ cs.length := by
            rw [List.length_singleton]
            ring

/-- Divisions by powers of ten keep a number finite. -/
theorem isFinite_divideByPower (rounds : Nat) {x : Double} {n : Nat} (hx : x.isFinite = true)
    (hn : 0 < n) : (divideByPower rounds x n).isFinite = true := by
  have hdiv : ∀ n, 0 < n → n ≤ maxPower → ∀ x : Double, x.isFinite = true →
      (x / powerOfTen n).isFinite = true := by
    intro n hn hmax x hx
    obtain ⟨hfinite, hlow, -⟩ := Double.value_powerOfTen hmax
    have hone : 1 ≤ (powerOfTen n).value := by
      have hten : (10 : ℚ) ≤ 10 ^ n := le_self_pow₀ (by norm_num) hn.ne'
      refine le_trans ?_ hlow
      linarith
    refine Double.isFinite_div hx hfinite (by linarith) ?_
    exact lt_of_le_of_lt (div_le_self x.value_nonneg hone) (Double.value_lt_limit hx)
  induction rounds generalizing x n with
  | zero => exact hx
  | succ rounds ih =>
      unfold divideByPower
      split
      · rename_i hmax
        exact hdiv n hn hmax x hx
      split
      · exact hx
      · rename_i hmax _
        exact ih (hdiv maxPower (by decide) le_rfl x hx) (by omega)

/-- **Scaling does not overflow.**  The significand, the power of ten and their product are each
rounded, so the exact value has to keep some distance from the limit. -/
theorem scaleByPower?_finite {n : Nat} (hn : n ≤ maxSignificand) {exponent : Int}
    (h : n * (10 : ℚ) ^ exponent * (1 + 1 / 2 ^ 53) ^ 2 < doubleLimit) :
    ∃ x, scaleByPower? (Double.ofInt n) exponent = some x ∧ x.isFinite = true := by
  have hword : n < 2 ^ 64 := Nat.lt_of_le_of_lt hn (by decide)
  obtain ⟨hfinite, hvalue⟩ := Double.value_ofInt hword
  unfold scaleByPower?
  split
  · exact ⟨_, rfl, isFinite_divideByPower 4 hfinite (by omega)⟩
  rename_i hnegative
  obtain ⟨places, rfl⟩ := Int.eq_ofNat_of_zero_le (Int.not_lt.mp hnegative)
  rw [zpow_natCast] at h
  split
  · rename_i hmax
    obtain ⟨hpower, -, hhigh⟩ := Double.value_powerOfTen (Int.ofNat_le.mp hmax)
    have hscaled : (Double.ofInt n * powerOfTen places).isFinite = true := by
      refine Double.isFinite_mul hfinite hpower (lt_of_le_of_lt ?_ h)
      calc (Double.ofInt n).value * (powerOfTen places).value
          ≤ n * (1 + 1 / 2 ^ 53) * (10 ^ places * (1 + 1 / 2 ^ 53)) :=
            mul_le_mul hvalue hhigh (Double.value_nonneg _) (by positivity)
        _ = n * 10 ^ places * (1 + 1 / 2 ^ 53) ^ 2 := by ring
    rw [Int.toNat_natCast]
    exact ⟨_, if_pos hscaled, hscaled⟩
  · rename_i hmax
    rcases Nat.eq_zero_or_pos n with rfl | hpos
    · exact ⟨_, if_pos (by decide +kernel), hfinite⟩
    · have hplaces : 309 ≤ places := by
        simp only [maxPower] at hmax
        omega
      have hlarge : (10 : ℚ) ^ 309 ≤ 10 ^ places := pow_le_pow_right₀ (by norm_num) hplaces
      have hone : (1 : ℚ) ≤ n := by exact_mod_cast hpos
      have hvalue : (10 : ℚ) ^ places ≤ n * 10 ^ places * (1 + 1 / 2 ^ 53) ^ 2 := by
        rw [mul_comm (n : ℚ), mul_assoc]
        refine le_mul_of_one_le_right (by positivity) (one_le_mul_of_one_le_of_one_le hone ?_)
        norm_num
      have hlimit := Double.limit_between.2
      exact absurd h (not_lt.mpr (hlimit.le.trans (hlarge.trans hvalue)))

/-- The parts of a text are read as a finite number, if their decimal keeps away from the limit. -/
theorem toDouble?_finite {s : Spelling} (hs : s.Sound) (hwhole : s.whole.length ≤ 16)
    (h : s.decimal.toRat * (1 + 1 / 2 ^ 53) ^ 2 < doubleLimit) :
    ∃ x, (Parts.mk s.negative s.whole s.fraction s.exponentValue).toDouble? = some x ∧
      x.isFinite = true := by
  have hfits : Nat.ofDigitChars 10 s.whole 0 ≤ maxSignificand := by
    have hless : Decimal.ofDigitChars s.whole < 10 ^ s.whole.length := ofDigitChars_lt hs.whole.2
    have hpower : 10 ^ s.whole.length ≤ 10 ^ 16 := Nat.pow_le_pow_right (by decide) hwhole
    have hmax : 10 ^ 16 ≤ maxSignificand := by decide
    exact (hless.le.trans hpower).trans hmax
  obtain ⟨hmax, hlength, hvalue⟩ := extendSignificand_bounds s.fraction hfits
  rw [← Nat.ofDigitChars_append] at hvalue
  obtain ⟨kept, hkept⟩ :
      ∃ kept, extendSignificand (Nat.ofDigitChars 10 s.whole 0) s.fraction = kept := ⟨_, rfl⟩
  have hread : (Parts.mk s.negative s.whole s.fraction s.exponentValue).toDouble? =
      (scaleByPower? (Double.ofInt kept.1) (((0 : Nat) : Int) -
        (s.fraction.length - kept.2 : Nat) + s.exponentValue.getD 0)).map
          fun x => if s.negative then x.neg else x := by
    unfold Parts.toDouble?
    simp only [extendSignificand_of_le s.whole hfits, hkept]
  rw [hkept] at hmax hlength hvalue
  have hexponent : ((0 : Nat) : Int) - (s.fraction.length - kept.2 : Nat) + s.exponentValue.getD 0 =
      kept.2 + s.decimal.exponent := by
    simp only [Spelling.decimal]
    omega
  have hexact : (kept.1 : ℚ) * 10 ^ (kept.2 + s.decimal.exponent) ≤ s.decimal.toRat := by
    have hvalueQ : (kept.1 : ℚ) * 10 ^ kept.2 ≤ s.decimal.digits := by exact_mod_cast hvalue
    rw [zpow_add₀ (by norm_num), zpow_natCast, ← mul_assoc, Decimal.toRat]
    gcongr
  obtain ⟨x, hx, hfinite⟩ := scaleByPower?_finite hmax
    (lt_of_le_of_lt (mul_le_mul_of_nonneg_right hexact (by positivity)) h)
  rw [hread, hexponent, hx]
  refine ⟨_, rfl, ?_⟩
  split
  · exact (Double.isFinite_neg x).trans hfinite
  · exact hfinite

/-- The parts of the text of a number. -/
def spelling : Number → Spelling
  | .integer value _ => integerSpelling value
  | .real value _ => FloatLayout.double.spelling (double.isNegative value.bits.toNat)
      (Decimal.shortest double value.bits.toNat)

theorem text_spelling (n : Number) : n.spelling.text = n.text := by
  cases n with
  | integer value h => exact text_integerSpelling value
  | real value h => exact FloatLayout.text_spelling _ _ _

theorem binade_double_le : 8 * double.binade ≤ 10 ^ 19 := by decide

/-- **A number is written in sound parts.** -/
theorem sound_spelling (n : Number) : n.spelling.Sound := by
  cases n with
  | integer value h => exact sound_integerSpelling value
  | real value h =>
      refine FloatLayout.sound_spelling _ _ fun hzero => ?_
      by_cases hsignificand : value.decode.significand = 0
      · rw [Decimal.shortest_zero hsignificand]
      · exact absurd hzero (Decimal.shortest_bounds binade_double_le hsignificand).1

/-- The largest two numbers of either sign are read. -/
theorem read_largest : ∀ negative, ∀ above, above = 1 ∨ above = 2 →
    (ofText? (floatText double .double
      (double.withSign negative (double.infinity - above)))).isSome = true := by
  rintro negative above (rfl | rfl) <;> cases negative <;> decide +kernel

/-- Below the largest two numbers there is room for the roundings of the reader. -/
theorem toRat_shortest_lt {x : Double} (h : double.magnitude x.bits.toNat + 2 < double.infinity) :
    (Decimal.shortest double x.bits.toNat).toRat * (1 + 1 / 2 ^ 53) ^ 2 < doubleLimit := by
  have htop : (0 : ℚ) < 2 ^ (971 : Int) := by positivity
  have hbound : (Decimal.shortest double x.bits.toNat).toRat ≤
      (2 ^ 53 - 2 - 1 / 2) * 2 ^ (971 : Int) := by
    by_cases hsignificand : (double.decode x.bits.toNat).significand = 0
    · rw [Decimal.shortest_zero hsignificand, Decimal.toRat]
      simp only [Nat.cast_zero, zero_mul]
      apply mul_nonneg (by norm_num) htop.le
    · have hnear := decode_double_le h (by decide)
      exact (Decimal.shortest_bounds binade_double_le hsignificand).2.trans
        (by exact_mod_cast hnear)
  have hroom := mul_le_mul_of_nonneg_right hbound (by positivity : (0 : ℚ) ≤ (1 + 1 / 2 ^ 53) ^ 2)
  refine lt_of_le_of_lt hroom ?_
  rw [doubleLimit, mul_right_comm]
  apply mul_lt_mul_of_pos_right ?_ htop
  norm_num

/-- **Every number is read back as a number.** -/
theorem exists_ofText? (n : Number) : ∃ m, ofText? n.text = some m := by
  cases n with
  | integer value h => exact ⟨_, ofText?_integerText h⟩
  | real value h =>
      by_cases hroom : double.magnitude value.bits.toNat + 2 < double.infinity
      · have hsound := sound_spelling (.real value h)
        have hlimit := toRat_shortest_lt hroom
        rw [← FloatLayout.toRat_spelling .double (double.isNegative value.bits.toNat)] at hlimit
        have hwhole := FloatLayout.length_whole_spelling .double
          (double.isNegative value.bits.toNat) (Decimal.shortest double value.bits.toNat)
        rw [show max 1 FloatLayout.double.placesBeforePoint = 16 by rfl] at hwhole
        obtain ⟨x, hx, hfinite⟩ := toDouble?_finite hsound (Int.ofNat_le.mp hwhole) hlimit
        rw [← text_spelling, ofText?, Spelling.ofText_text hsound]
        split
        · exact ⟨_, rfl⟩
        · rw [hx]
          exact ⟨_, dif_pos hfinite⟩
      · have hmagnitude : double.magnitude value.bits.toNat < double.infinity := of_decide_eq_true h
        obtain ⟨above, habove, heq⟩ : ∃ above, (above = 1 ∨ above = 2) ∧
            double.magnitude value.bits.toNat = double.infinity - above :=
          ⟨double.infinity - double.magnitude value.bits.toNat, by omega, by omega⟩
        have hread := read_largest (double.isNegative value.bits.toNat) above habove
        rw [← heq, Double.withSign_magnitude] at hread
        exact Option.isSome_iff_exists.mp hread

/-- The number that is read back from a number's text. -/
def reread (n : Number) : Number := (ofText? n.text).getD n

theorem ofText?_text (n : Number) : ofText? n.text = some n.reread := by
  obtain ⟨m, hm⟩ := exists_ofText? n
  rw [reread, hm, Option.getD_some]

/-- An integer is read back as itself. -/
theorem reread_integer (value : Int) (h : -signedBound ≤ value ∧ value < unsignedBound) :
    (integer value h).reread = .integer value h := by
  rw [reread, text, ofText?_integerText h, Option.getD_some]

end Json.Number

end HybridRetrieval
