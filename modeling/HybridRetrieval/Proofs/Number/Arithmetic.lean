import HybridRetrieval.Number.Decimal
import HybridRetrieval.Proofs.Number.Rounding
/-!
# Arithmetic without overflow

A product or a quotient of finite numbers is finite as long as its exact value stays below the limit
of the format (`Double.isFinite_mul`, `Double.isFinite_div`).  What the numbers are worth that
arithmetic starts from, integers and powers of ten, is off by one part in `2 ^ 53` at most.
-/

namespace HybridRetrieval

namespace BinaryFormat

variable {f : BinaryFormat}

/-- The sign bit changes neither the magnitude nor what it decodes to. -/
theorem magnitude_withSign (negative : Bool) {magnitude : Nat} (h : magnitude < f.signWeight) :
    f.magnitude (f.withSign negative magnitude) = magnitude := by
  cases negative with
  | false => exact Nat.mod_eq_of_lt h
  | true => exact (Nat.add_mod_left _ _).trans (Nat.mod_eq_of_lt h)

theorem decode_eq_of_magnitude {a b : Nat} (h : f.magnitude a = f.magnitude b) :
    f.decode a = f.decode b := by
  rw [decode, decode, h]

/-- How large a 64-bit number is when there are so many larger ones. -/
theorem decode_double_le {bits above : Nat}
    (h : double.magnitude bits + above < double.infinity) (habove : above < 2 ^ 52) :
    ((double.decode bits).significand + 1 / 2) * (2 : ℚ) ^ (double.decode bits).exponent ≤
      (2 ^ 53 - above - 1 / 2) * 2 ^ (971 : Int) := by
  have hconstants : double.leastExponent = -1074 ∧ double.binade = 2 ^ 52 ∧
      double.infinity = 2047 * 2 ^ 52 := by decide
  obtain ⟨hleast, hbinade, hinfinity⟩ := hconstants
  have hsignificand := significand_decode_lt (f := double) bits
  have hcases : (double.decode bits).exponent ≤ 970 ∨
      (double.decode bits).exponent = 971 ∧
        (double.decode bits).significand + above + 1 ≤ 2 ^ 53 := by
    unfold decode
    simp only [hleast, hbinade]
    split
    · exact .inl (show (-1074 : Int) ≤ 970 by decide)
    · by_cases hlast : double.magnitude bits / 2 ^ 52 = 2046
      · right
        simp only [hlast]
        omega
      · left
        simp only
        omega
  rw [hbinade] at hsignificand
  have hsignificandQ : ((double.decode bits).significand : ℚ) + 1 ≤ 2 * 2 ^ 52 := by
    exact_mod_cast hsignificand
  have haboveQ : (above : ℚ) + 1 ≤ 2 ^ 52 := by exact_mod_cast habove
  have htop : (2 : ℚ) ^ (971 : Int) = 2 ^ (970 : Int) * 2 := by
    rw [← zpow_add_one₀ (two_ne_zero' ℚ)]
    norm_num
  obtain hlow | ⟨hexponent, hroom⟩ := hcases
  · have hpower : (2 : ℚ) ^ (double.decode bits).exponent ≤ 2 ^ (970 : Int) :=
      zpow_le_zpow_right₀ (by norm_num) hlow
    calc ((double.decode bits).significand + 1 / 2) * (2 : ℚ) ^ (double.decode bits).exponent
        ≤ (2 ^ 53 - 1 / 2) * 2 ^ (970 : Int) := by
          apply mul_le_mul (by linarith) hpower (by positivity) (by norm_num)
      _ ≤ (2 ^ 53 - above - 1 / 2) * 2 ^ (971 : Int) := by
          rw [htop, ← mul_assoc, mul_right_comm]
          gcongr
          linarith
  · have hroomQ : ((double.decode bits).significand : ℚ) + above + 1 ≤ 2 ^ 53 := by
      exact_mod_cast hroom
    rw [hexponent]
    gcongr
    linarith

end BinaryFormat

namespace Double

open BinaryFormat

/-- The exact magnitude of a finite number. -/
def value (x : Double) : ℚ := x.decode.toRat

theorem signWeight_double : double.signWeight = 2 ^ 63 := by decide

theorem infinity_lt : double.infinity < 2 ^ 63 := by decide

/-- A number made from its sign and its magnitude has that magnitude. -/
theorem magnitude_ofMagnitude (negative : Bool) {magnitude : Nat} (h : magnitude < 2 ^ 63) :
    double.magnitude (ofMagnitude negative magnitude).bits.toNat = magnitude := by
  have hbits : double.withSign negative magnitude < 2 ^ 64 := by
    unfold withSign
    rw [signWeight_double]
    split <;> omega
  rw [ofMagnitude, UInt64.toNat_ofNat_of_lt' hbits]
  exact magnitude_withSign negative (signWeight_double ▸ h)

theorem isFinite_ofMagnitude {negative : Bool} {magnitude : Nat}
    (h : magnitude < double.infinity) : (ofMagnitude negative magnitude).isFinite = true := by
  have := infinity_lt
  rw [isFinite, BinaryFormat.isFinite, magnitude_ofMagnitude negative (by omega)]
  exact decide_eq_true h

theorem value_ofMagnitude {negative : Bool} {magnitude : Nat} (h : magnitude < double.infinity) :
    (ofMagnitude negative magnitude).value = (double.decode magnitude).toRat := by
  have := infinity_lt
  have hmagnitude := magnitude_ofMagnitude negative (show magnitude < 2 ^ 63 by omega)
  rw [value, decode, decode_eq_of_magnitude (b := magnitude)]
  rw [hmagnitude]
  exact (Nat.mod_eq_of_lt (by rw [signWeight_double]; omega)).symm

theorem value_nonneg (x : Double) : 0 ≤ x.value := by
  rw [value, Scaled.toRat_eq]
  positivity

/-- The sign makes no difference to whether a number is finite. -/
theorem isFinite_neg (x : Double) : x.neg.isFinite = x.isFinite := by
  have hmagnitude : double.magnitude x.neg.bits.toNat = double.magnitude x.bits.toNat := by
    have hsign : (0x8000000000000000 : UInt64).toNat % 2 ^ 63 = 0 := by decide
    rw [BinaryFormat.magnitude, BinaryFormat.magnitude, signWeight_double, neg, UInt64.toNat_xor,
      Nat.xor_mod_two_pow, hsign, Nat.xor_zero]
  rw [isFinite, isFinite, BinaryFormat.isFinite, BinaryFormat.isFinite, hmagnitude]

/-- A pattern is made up of its sign and its magnitude. -/
theorem withSign_magnitude (x : Double) :
    double.withSign (double.isNegative x.bits.toNat) (double.magnitude x.bits.toNat) =
      x.bits.toNat := by
  have hbits : x.bits.toNat < 2 ^ 64 := x.bits.toNat_lt
  unfold withSign BinaryFormat.isNegative BinaryFormat.magnitude
  rw [signWeight_double]
  by_cases hsign : 2 ^ 63 ≤ x.bits.toNat
  · rw [if_pos (decide_eq_true hsign)]
    omega
  · rw [if_neg (by simpa using hsign)]
    omega

/-- A number that is worth something is no zero. -/
theorem isZero_eq_false {x : Double} (h : 0 < x.value) : x.isZero = false := by
  by_contra hzero
  have hmagnitude : double.magnitude x.bits.toNat = 0 := by
    simpa [isZero] using hzero
  rw [value, Scaled.toRat_eq, decode, BinaryFormat.decode, hmagnitude] at h
  simp at h

/-- A finite number is below the limit. -/
theorem value_lt_limit {x : Double} (h : x.isFinite = true) : x.value < doubleLimit := by
  have hmagnitude : double.magnitude x.bits.toNat + 0 < double.infinity := of_decide_eq_true h
  have hbound : (x.decode.significand + 1 / 2) * (2 : ℚ) ^ x.decode.exponent ≤ _ :=
    decode_double_le hmagnitude (by decide)
  have hpower : (0 : ℚ) < 2 ^ x.decode.exponent := by positivity
  rw [Nat.cast_zero, sub_zero] at hbound
  rw [value, Scaled.toRat_eq, doubleLimit]
  refine lt_of_lt_of_le ?_ hbound
  gcongr
  linarith

/-- A scaled ratio below the limit is rounded to a finite number. -/
theorem isFinite_ofScaledRatio {negative : Bool} {num den : Nat} {exponent : Int} (hden : 0 < den)
    (h : (num : ℚ) / den * 2 ^ exponent < doubleLimit) :
    (ofScaledRatio negative num den exponent).isFinite = true := by
  obtain ⟨hpos, hscaled⟩ := scaleRatio_div (show 0 < 2 by decide) num hden (-exponent)
  refine isFinite_ofMagnitude (ofRatio_lt_infinity hpos ?_)
  rw [hscaled]
  simpa using h

/-- **A product below the limit is finite.** -/
theorem isFinite_mul {x y : Double} (hx : x.isFinite = true) (hy : y.isFinite = true)
    (h : x.value * y.value < doubleLimit) : (x * y).isFinite = true := by
  have hmul : x * y = x.mul y := rfl
  rw [hmul, Double.mul]
  simp only [hx, hy, Bool.and_self, if_true]
  refine isFinite_ofScaledRatio (by decide) ?_
  rw [value, value, Scaled.toRat_eq, Scaled.toRat_eq] at h
  rw [zpow_add₀ (two_ne_zero' ℚ)]
  push_cast
  linarith

/-- **A quotient below the limit is finite.** -/
theorem isFinite_div {x y : Double} (hx : x.isFinite = true) (hy : y.isFinite = true)
    (hpos : 0 < y.value) (h : x.value / y.value < doubleLimit) : (x / y).isFinite = true := by
  have hdiv : x / y = x.div y := rfl
  rw [hdiv, Double.div]
  simp only [hx, hy, isZero_eq_false hpos, Bool.and_self, Bool.not_false, if_true]
  have hsignificand : 0 < y.decode.significand := by
    rw [value, Scaled.toRat_eq] at hpos
    exact_mod_cast pos_of_mul_pos_left hpos (by positivity)
  refine isFinite_ofScaledRatio hsignificand ?_
  rw [value, value, Scaled.toRat_eq, Scaled.toRat_eq, mul_div_mul_comm] at h
  rw [zpow_sub₀ (two_ne_zero' ℚ)]
  exact h

/-- The number nearest to a positive integer is worth the integer to one part in `2 ^ 53`. -/
theorem value_ofRatio_nat {n : Nat} (hn : 0 < n) (h : (n : ℚ) < doubleLimit) :
    (ofMagnitude false (double.ofRatio n 1)).isFinite = true ∧
      n * (1 - 1 / 2 ^ 53) ≤ (ofMagnitude false (double.ofRatio n 1)).value ∧
      (ofMagnitude false (double.ofRatio n 1)).value ≤ n * (1 + 1 / 2 ^ 53) := by
  have hratio : (n : ℚ) / (1 : Nat) = n := by simp
  have hfinite : double.ofRatio n 1 < double.infinity :=
    ofRatio_lt_infinity (by decide) (by rwa [hratio])
  have hnormal : (double.binade : ℚ) * 2 ^ double.leastExponent ≤ n / (1 : Nat) := by
    have hone : (1 : ℚ) ≤ n := by exact_mod_cast hn
    have hleast : double.leastExponent = -1074 := by decide
    have hbinade : double.binade = 2 ^ 52 := by decide
    rw [hratio, hleast, hbinade]
    refine le_trans ?_ hone
    rw [Nat.cast_pow, Nat.cast_ofNat, ← zpow_natCast, ← zpow_add₀ (two_ne_zero' ℚ)]
    exact zpow_le_one_of_nonpos₀ one_le_two (by decide)
  have hnear := toRat_ofRatio_near (f := double) (by decide) hn (by decide) hnormal hfinite
  rw [hratio] at hnear
  rw [value_ofMagnitude hfinite]
  exact ⟨isFinite_ofMagnitude hfinite, hnear⟩

theorem ofInt_eq (n : Nat) : ofInt n = ofMagnitude false (double.ofRatio n 1) := by
  have hsign : ¬ (n : Int) < 0 := by omega
  simp [ofInt, ofRat, BinaryFormat.ofRat, ofMagnitude, hsign]

/-- **An integer of 64 bits as a number.** -/
theorem value_ofInt {n : Nat} (h : n < 2 ^ 64) :
    (ofInt n).isFinite = true ∧ (ofInt n).value ≤ n * (1 + 1 / 2 ^ 53) := by
  rcases Nat.eq_zero_or_pos n with rfl | hn
  · rw [show ((0 : Nat) : Int) = 0 from rfl]
    exact ⟨by decide +kernel, by decide +kernel⟩
  · have hlimit : (n : ℚ) < doubleLimit := by
      have hcast : (n : ℚ) < 2 ^ 64 := by exact_mod_cast h
      have htop : (2 : ℚ) ^ (64 : Int) ≤ 2 ^ (971 : Int) :=
        zpow_le_zpow_right₀ one_le_two (by decide)
      rw [doubleLimit]
      generalize (2 : ℚ) ^ (971 : Int) = top at *
      norm_num at htop
      linarith
    rw [ofInt_eq]
    exact ⟨(value_ofRatio_nat hn hlimit).1, (value_ofRatio_nat hn hlimit).2.2⟩

theorem toDouble_eq {n : Nat} (h : n ≤ 308) :
    Decimal.toDouble ⟨1, n⟩ = ofMagnitude false (double.ofRatio (10 ^ n) 1) := by
  have hdigits : (Decimal.digitChars 1).length = 1 := by rfl
  have hplaces : ¬ ((n : Int) + 1 < -400) ∧ ¬ ((400 : Int) < n + 1) := by omega
  have hratio : scaleRatio 10 1 1 (-n) = (10 ^ n, 1) := by
    unfold scaleRatio
    split
    · obtain rfl : n = 0 := by omega
      rfl
    · simp
  simp [Decimal.toDouble, Decimal.round, hdigits, Decimal.placesLimit, hplaces, hratio,
    ofMagnitude, withSign]

/-- The limit lies between two powers of ten. -/
theorem limit_between : (10 : ℚ) ^ 308 < doubleLimit ∧ doubleLimit < (10 : ℚ) ^ 309 := by
  have hlow : 10 ^ 308 * 2 < 18014398509481983 * 2 ^ 971 := by decide +kernel
  have hhigh : 18014398509481983 * 2 ^ 971 < 10 ^ 309 * 2 := by decide +kernel
  have hlowQ : (10 : ℚ) ^ 308 * 2 < 18014398509481983 * 2 ^ (971 : Int) := by exact_mod_cast hlow
  have hhighQ : 18014398509481983 * 2 ^ (971 : Int) < (10 : ℚ) ^ 309 * 2 := by exact_mod_cast hhigh
  have hlimit : doubleLimit * 2 = 18014398509481983 * 2 ^ (971 : Int) := by
    rw [doubleLimit]
    generalize (2 : ℚ) ^ (971 : Int) = top
    ring
  rw [← hlimit] at hlowQ hhighQ
  exact ⟨lt_of_mul_lt_mul_right hlowQ (by norm_num), lt_of_mul_lt_mul_right hhighQ (by norm_num)⟩

/-- **A power of ten as a number.** -/
theorem value_powerOfTen {n : Nat} (h : n ≤ 308) :
    (Decimal.toDouble ⟨1, n⟩).isFinite = true ∧
      10 ^ n * (1 - 1 / 2 ^ 53) ≤ (Decimal.toDouble ⟨1, n⟩).value ∧
      (Decimal.toDouble ⟨1, n⟩).value ≤ 10 ^ n * (1 + 1 / 2 ^ 53) := by
  have hlimit : ((10 ^ n : Nat) : ℚ) < doubleLimit := by
    have hpower : (10 : ℚ) ^ n ≤ 10 ^ 308 := pow_le_pow_right₀ (by norm_num) h
    push_cast
    exact hpower.trans_lt limit_between.1
  have hvalue := value_ofRatio_nat (Nat.pow_pos (by decide)) hlimit
  rw [toDouble_eq h]
  push_cast at hvalue
  exact hvalue

end Double

end HybridRetrieval
