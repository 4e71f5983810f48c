import HybridRetrieval.Number.BinaryFormat
import Mathlib.Algebra.Order.Field.Power
import Mathlib.Algebra.Order.Field.Rat
import Mathlib.Data.Nat.Log
import Mathlib.Tactic.FieldSimp
import Mathlib.Tactic.Linarith
import Mathlib.Tactic.NormNum
import Mathlib.Tactic.Positivity
import Mathlib.Tactic.Ring
/-!
# Rounding to a binary format

A ratio is rounded by choosing the weight of the last bit and counting how often it fits
(`BinaryFormat.ofRatio_eq`).  The count is the significand that the pattern decodes to
(`BinaryFormat.toRat_decode`), so the value of the result is within half a last bit of the ratio.
-/

namespace HybridRetrieval

variable {num den : Nat}

/-- The rounded quotient is within one half of the exact one. -/
theorem roundDiv_near (num : Nat) (hden : 0 < den) :
    2 * num ≤ (2 * roundDiv num den + 1) * den ∧ (2 * roundDiv num den) * den ≤ 2 * num + den := by
  have hsplit := Nat.div_add_mod num den
  have hrest := Nat.mod_lt num hden
  unfold roundDiv
  simp only
  generalize num / den = quotient at *
  generalize num % den = rest at *
  have hcomm : quotient * den = den * quotient := Nat.mul_comm _ _
  split <;> simp only [Nat.add_mul, Nat.mul_add, Nat.mul_assoc, hcomm] <;> omega

/-- The rounded quotient as a fraction. -/
theorem roundDiv_near_div (num : Nat) (hden : 0 < den) :
    (num : ℚ) / den ≤ roundDiv num den + 1 / 2 ∧ (roundDiv num den : ℚ) ≤ num / den + 1 / 2 := by
  obtain ⟨hlow, hhigh⟩ := roundDiv_near num hden
  have hdenQ : (0 : ℚ) < den := by exact_mod_cast hden
  have hlowQ : (2 * num : ℚ) ≤ (2 * roundDiv num den + 1) * den := by exact_mod_cast hlow
  have hhighQ : (2 * roundDiv num den : ℚ) * den ≤ 2 * num + den := by exact_mod_cast hhigh
  constructor
  · rw [div_le_iff₀ hdenQ]
    linarith
  · have hmove : (roundDiv num den - 1 / 2 : ℚ) ≤ num / den := by
      rw [le_div_iff₀ hdenQ]
      linarith
    linarith

/-- Scaling divides by the power. -/
theorem scaleRatio_div {base : Nat} (hbase : 0 < base) (num : Nat) (hden : 0 < den) (e : Int) :
    0 < (scaleRatio base num den e).2 ∧
      ((scaleRatio base num den e).1 : ℚ) / (scaleRatio base num den e).2 =
        num / den / (base : ℚ) ^ e := by
  have hbaseQ : (base : ℚ) ≠ 0 := by exact_mod_cast hbase.ne'
  unfold scaleRatio
  split
  · rename_i he
    obtain ⟨n, rfl⟩ := Int.eq_ofNat_of_zero_le he
    refine ⟨Nat.mul_pos hden (Nat.pow_pos hbase), ?_⟩
    simp [div_div]
  · rename_i he
    obtain ⟨n, hn⟩ := Int.eq_ofNat_of_zero_le (show 0 ≤ -e by omega)
    obtain rfl : e = -n := by omega
    refine ⟨hden, ?_⟩
    simp
    field_simp

/-- The exact value of a scaled integer as a product. -/
theorem Scaled.toRat_eq (s : Scaled) : s.toRat = s.significand * (2 : ℚ) ^ s.exponent := by
  unfold Scaled.toRat
  split
  · rename_i he
    obtain ⟨n, hn⟩ := Int.eq_ofNat_of_zero_le he
    simp [hn]
  · rename_i he
    obtain ⟨n, hn⟩ := Int.eq_ofNat_of_zero_le (show 0 ≤ -s.exponent by omega)
    have hexponent : s.exponent = -n := by omega
    rw [Rat.mkRat_eq_div]
    simp [hexponent, div_eq_mul_inv]

/-- The integer logarithm brackets the ratio by powers of two. -/
theorem floorLog2_spec (hnum : 0 < num) (hden : 0 < den) :
    (2 : ℚ) ^ floorLog2 num den ≤ num / den ∧ (num : ℚ) / den < 2 ^ (floorLog2 num den + 1) := by
  have hnumQ : (0 : ℚ) < num := by exact_mod_cast hnum
  have hdenQ : (0 : ℚ) < den := by exact_mod_cast hden
  have hnumLow : (2 : ℚ) ^ num.log2 ≤ num := by exact_mod_cast Nat.log2_self_le hnum.ne'
  have hnumHigh : (num : ℚ) < 2 ^ (num.log2 + 1) := by exact_mod_cast Nat.lt_log2_self
  have hdenLow : (2 : ℚ) ^ den.log2 ≤ den := by exact_mod_cast Nat.log2_self_le hden.ne'
  have hdenHigh : (den : ℚ) < 2 ^ (den.log2 + 1) := by exact_mod_cast Nat.lt_log2_self
  have hlow : (2 : ℚ) ^ ((num.log2 : Int) - den.log2 - 1) ≤ num / den := by
    rw [le_div_iff₀ hdenQ]
    calc (2 : ℚ) ^ ((num.log2 : Int) - den.log2 - 1) * den
        ≤ 2 ^ ((num.log2 : Int) - den.log2 - 1) * 2 ^ (den.log2 + 1) := by gcongr
      _ = 2 ^ num.log2 := by
          rw [← zpow_natCast, ← zpow_natCast, ← zpow_add₀ (by norm_num)]
          congr 1
          push_cast
          ring
      _ ≤ num := hnumLow
  have hhigh : (num : ℚ) / den < 2 ^ ((num.log2 : Int) - den.log2 + 1) := by
    rw [div_lt_iff₀ hdenQ]
    calc (num : ℚ) < 2 ^ (num.log2 + 1) := hnumHigh
      _ = 2 ^ ((num.log2 : Int) - den.log2 + 1) * 2 ^ den.log2 := by
          rw [← zpow_natCast, ← zpow_natCast, ← zpow_add₀ (by norm_num)]
          congr 1
          push_cast
          ring
      _ ≤ 2 ^ ((num.log2 : Int) - den.log2 + 1) * den := by gcongr
  obtain ⟨hpos, hscaled⟩ := scaleRatio_div (show 0 < 2 by decide) num hden
    ((num.log2 : Int) - den.log2)
  have hcompare : (scaleRatio 2 num den (num.log2 - den.log2)).2 ≤
      (scaleRatio 2 num den (num.log2 - den.log2)).1 ↔
        (2 : ℚ) ^ ((num.log2 : Int) - den.log2) ≤ num / den := by
    have hposQ : (0 : ℚ) < (scaleRatio 2 num den (num.log2 - den.log2)).2 := by exact_mod_cast hpos
    have hpower : (0 : ℚ) < 2 ^ ((num.log2 : Int) - den.log2) := by positivity
    rw [← Nat.cast_le (α := ℚ), ← one_le_div hposQ, hscaled, Nat.cast_ofNat, one_le_div hpower]
  unfold floorLog2
  simp only
  split
  · rename_i hle
    exact ⟨hcompare.mp hle, hhigh⟩
  · rename_i hlt
    refine ⟨hlow, ?_⟩
    rw [sub_add_cancel]
    exact not_le.mp (mt hcompare.mpr hlt)

namespace BinaryFormat

variable {f : BinaryFormat}

theorem binade_pos (f : BinaryFormat) : 0 < f.binade := Nat.pow_pos (by decide)

theorem infinity_lt_signWeight (hprecision : 0 < f.precision) : f.infinity < f.signWeight := by
  have hweight : f.signWeight = Nat.pow 2 f.exponentWidth * f.binade := by
    rw [signWeight, binade, Nat.pow_eq, Nat.pow_eq, Nat.pow_eq, ← Nat.pow_add]
    congr 1
    omega
  rw [hweight, infinity]
  exact Nat.mul_lt_mul_of_pos_right (Nat.sub_lt (Nat.pow_pos (by decide)) (by decide)) f.binade_pos

theorem two_mul_binade (hprecision : 0 < f.precision) : 2 * f.binade = 2 ^ f.precision := by
  rw [binade, Nat.pow_eq, ← Nat.pow_succ']
  congr 1
  omega

/-- The significand of a finite number is less than twice the number of patterns in a binade. -/
theorem significand_decode_lt (bits : Nat) : (f.decode bits).significand < 2 * f.binade := by
  have hbinade := f.binade_pos
  unfold decode
  simp only
  split
  · rename_i hfield
    have hsmall : f.magnitude bits < f.binade := (Nat.div_eq_zero_iff_lt hbinade).mp hfield
    show f.magnitude bits < 2 * f.binade
    omega
  · have hrest := Nat.mod_lt (f.magnitude bits) hbinade
    show f.magnitude bits % f.binade + f.binade < 2 * f.binade
    omega

/-- **How a ratio is rounded.**  It is counted in units of `2 ^ e`, with the largest `e` that leaves
a full significand, or the least one of the format. -/
theorem ofRatio_eq (hprecision : 0 < f.precision) (hnum : 0 < num) (hden : 0 < den) :
    ∃ (e : Int) (count : Nat), f.leastExponent ≤ e ∧
      f.ofRatio num den =
        min f.infinity ((e - f.leastExponent).toNat * f.binade + count) ∧
      (e = f.leastExponent ∨ f.binade ≤ count ∧ (f.binade : ℚ) * 2 ^ e ≤ num / den) ∧
      count ≤ 2 * f.binade ∧ (num : ℚ) / den < 2 * f.binade * 2 ^ e ∧
      (num : ℚ) / den ≤ (count + 1 / 2) * 2 ^ e ∧ (count : ℚ) * 2 ^ e ≤ num / den + 2 ^ e / 2 := by
  obtain ⟨hlog, hlog'⟩ := floorLog2_spec hnum hden
  have hbinade : ∀ e : Int, (f.binade : ℚ) * 2 ^ e = 2 ^ (e + (f.precision - 1)) := by
    intro e
    have hcast : ((f.precision - 1 : Nat) : Int) = f.precision - 1 := by omega
    rw [zpow_add₀ (by norm_num), mul_comm, ← hcast, zpow_natCast, binade]
    simp
  obtain ⟨e, he⟩ : ∃ e : Int, e = max f.leastExponent (floorLog2 num den - (f.precision - 1)) :=
    ⟨_, rfl⟩
  have hpower : (0 : ℚ) < 2 ^ e := by positivity
  obtain ⟨hpos, hscaled⟩ := scaleRatio_div (show 0 < 2 by decide) num hden e
  obtain ⟨hnear, hnear'⟩ := roundDiv_near_div (scaleRatio 2 num den e).1 hpos
  obtain ⟨count, hcount⟩ : ∃ count, count =
    roundDiv (scaleRatio 2 num den e).1 (scaleRatio 2 num den e).2 := ⟨_, rfl⟩
  rw [hscaled, Nat.cast_ofNat, ← hcount] at hnear hnear'
  have hbelow : (num : ℚ) / den < 2 * f.binade * 2 ^ e := by
    rw [mul_assoc, hbinade, ← zpow_one_add₀ (by norm_num)]
    refine hlog'.trans_le (zpow_le_zpow_right₀ (by norm_num) ?_)
    omega
  have habove : e = f.leastExponent ∨ (f.binade : ℚ) * 2 ^ e ≤ num / den := by
    by_cases hleast : e = f.leastExponent
    · exact .inl hleast
    · right
      rw [hbinade, show e + (f.precision - 1) = floorLog2 num den by omega]
      exact hlog
  refine ⟨e, count, by omega, ?_, ?_, ?_, hbelow, ?_, ?_⟩
  · rw [ofRatio, if_neg hnum.ne', hcount]
    simp only [← he]
  · refine habove.imp id fun hfull => ⟨?_, hfull⟩
    rw [← le_div_iff₀ hpower] at hfull
    by_contra hlt
    have hlt : (count : ℚ) + 1 ≤ f.binade := by exact_mod_cast not_le.mp hlt
    linarith
  · rw [← div_lt_iff₀ hpower] at hbelow
    by_contra hlt
    have hlt : (2 * f.binade : ℚ) + 1 ≤ count := by exact_mod_cast not_le.mp hlt
    linarith
  · rwa [div_le_iff₀ hpower] at hnear
  · have hmul := mul_le_mul_of_nonneg_right hnear' hpower.le
    rw [add_mul, div_mul_cancel₀ _ hpower.ne'] at hmul
    linarith

/-- **What a pattern decodes to.**  A pattern that was counted up from the bottom of a binade stands
for that count. -/
theorem toRat_decode (hprecision : 0 < f.precision) {steps count : Nat}
    (hcount : count ≤ 2 * f.binade) (hfull : steps = 0 ∨ f.binade ≤ count)
    (hfinite : steps * f.binade + count < f.infinity) :
    (f.decode (steps * f.binade + count)).toRat = count * 2 ^ (f.leastExponent + steps) := by
  have hbinade := f.binade_pos
  have hmagnitude : f.magnitude (steps * f.binade + count) = steps * f.binade + count :=
    Nat.mod_eq_of_lt (hfinite.trans (infinity_lt_signWeight hprecision))
  have hfield : ∀ field rest, rest < f.binade →
      (field * f.binade + rest) / f.binade = field ∧
        (field * f.binade + rest) % f.binade = rest := by
    intro field rest hrest
    rw [Nat.add_comm, Nat.add_mul_div_right _ _ hbinade, Nat.add_mul_mod_self_right,
      Nat.div_eq_of_lt hrest, Nat.mod_eq_of_lt hrest]
    exact ⟨Nat.zero_add _, rfl⟩
  rw [Scaled.toRat_eq, decode, hmagnitude]
  obtain hsmall | ⟨rest, hrest, rfl⟩ | rfl : count < f.binade ∨
      (∃ rest < f.binade, count = f.binade + rest) ∨ count = 2 * f.binade := by
    by_cases hsmall : count < f.binade
    · exact .inl hsmall
    · by_cases hmiddle : count < 2 * f.binade
      · exact .inr (.inl ⟨count - f.binade, by omega, by omega⟩)
      · exact .inr (.inr (by omega))
  · obtain rfl : steps = 0 := hfull.resolve_right (by omega)
    obtain ⟨hdiv, -⟩ := hfield 0 count hsmall
    rw [hdiv, if_pos rfl]
    simp
  · obtain ⟨hdiv, hmod⟩ := hfield (steps + 1) rest hrest
    rw [show steps * f.binade + (f.binade + rest) = (steps + 1) * f.binade + rest by ring]
    rw [hdiv, hmod, if_neg (Nat.succ_ne_zero steps)]
    simp only [Nat.add_comm rest]
    congr 2
    push_cast
    ring
  · obtain ⟨hdiv, hmod⟩ := hfield (steps + 2) 0 hbinade
    rw [Nat.add_zero] at hdiv hmod
    rw [show steps * f.binade + 2 * f.binade = (steps + 2) * f.binade by ring]
    rw [hdiv, hmod, if_neg (Nat.succ_ne_zero (steps + 1))]
    have hexponent : f.leastExponent + ((steps + 2 : Nat) : Int) - 1 =
        f.leastExponent + steps + 1 := by
      push_cast
      ring
    simp only [hexponent, zpow_add_one₀ (two_ne_zero' ℚ), Nat.zero_add]
    push_cast
    ring

/-- **The value of a rounded ratio.**  Unless the ratio is too small for a full significand, it is
off by one part in `2 ^ precision` at most. -/
theorem toRat_ofRatio_near (hprecision : 0 < f.precision) (hnum : 0 < num) (hden : 0 < den)
    (hnormal : (f.binade : ℚ) * 2 ^ f.leastExponent ≤ num / den)
    (hfinite : f.ofRatio num den < f.infinity) :
    num / den * (1 - 1 / 2 ^ f.precision) ≤ (f.decode (f.ofRatio num den)).toRat ∧
      (f.decode (f.ofRatio num den)).toRat ≤ num / den * (1 + 1 / 2 ^ f.precision) := by
  obtain ⟨e, count, hleast, heq, hfull, hcount, -, hbelow, habove⟩ :=
    ofRatio_eq hprecision hnum hden
  obtain ⟨steps, hsteps⟩ := Int.eq_ofNat_of_zero_le (show 0 ≤ e - f.leastExponent by omega)
  rw [hsteps, Int.toNat_natCast] at heq
  have hpattern : steps * f.binade + count < f.infinity := by omega
  have hvalue : (f.decode (f.ofRatio num den)).toRat = count * 2 ^ e := by
    rw [heq, min_eq_right hpattern.le, toRat_decode hprecision hcount _ hpattern,
      show f.leastExponent + steps = e by omega]
    exact hfull.imp (by omega) And.left
  have hunit : (f.binade : ℚ) * 2 ^ e ≤ num / den := by
    obtain rfl | hfull := hfull
    · exact hnormal
    · exact hfull.2
  have hpower : (2 : ℚ) ^ f.precision = 2 * f.binade := by
    exact_mod_cast (two_mul_binade hprecision).symm
  have hbinade : (0 : ℚ) < f.binade := by exact_mod_cast f.binade_pos
  have hhalf : (2 : ℚ) ^ e / 2 ≤ num / den * (1 / 2 ^ f.precision) := by
    rw [hpower, mul_one_div, le_div_iff₀ (by positivity)]
    linarith
  rw [hvalue]
  constructor <;> linarith

/-- The middle between the largest 64-bit number and the next power of two. -/
def doubleLimit : ℚ := (2 ^ 53 - 1 / 2) * 2 ^ (971 : Int)

/-- **Below the limit nothing overflows.** -/
theorem ofRatio_lt_infinity (hden : 0 < den) (hratio : (num : ℚ) / den < doubleLimit) :
    double.ofRatio num den < double.infinity := by
  rcases Nat.eq_zero_or_pos num with rfl | hnum
  · rw [ofRatio, if_pos rfl]
    decide
  obtain ⟨e, count, hleast, heq, hfull, hcount, -, -, hnear⟩ :=
    ofRatio_eq (f := double) (by decide) hnum hden
  have hconstants : double.leastExponent = -1074 ∧ double.binade = 2 ^ 52 ∧
      double.infinity = 2047 * 2 ^ 52 := by decide
  obtain ⟨hleastExponent, hbinade, hinfinity⟩ := hconstants
  have htop : (0 : ℚ) < 2 ^ (971 : Int) := by positivity
  unfold doubleLimit at hratio
  have hexponent : e ≤ 971 := by
    by_contra hlarge
    have hunit := (hfull.resolve_left (by omega)).2
    have hpower : (2 : ℚ) ^ (971 : Int) * 2 ≤ 2 ^ e := by
      rw [← zpow_add_one₀ (two_ne_zero' ℚ)]
      exact zpow_le_zpow_right₀ (by norm_num) (by omega)
    rw [hbinade] at hunit
    push_cast at hunit
    generalize (2 : ℚ) ^ (971 : Int) = top at *
    generalize (2 : ℚ) ^ e = unit at *
    linarith
  have hpattern : (e - double.leastExponent).toNat * double.binade + count < double.infinity := by
    rw [hbinade, hinfinity]
    rw [hbinade] at hcount
    by_cases hlast : e = 971
    · subst hlast
      have hless : (count : ℚ) < 2 ^ 53 := by
        rw [← mul_lt_mul_iff_left₀ htop]
        linarith
      have hless : count < 2 ^ 53 := by exact_mod_cast hless
      omega
    · omega
  rw [heq]
  exact lt_of_le_of_lt (min_le_right _ _) hpattern

end BinaryFormat

end HybridRetrieval
