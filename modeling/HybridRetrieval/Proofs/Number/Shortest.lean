import HybridRetrieval.Number.Shortest
import HybridRetrieval.Proofs.Number.Rounding
/-!
# The shortest decimal

The shortest decimal of a number is not above the middle between the number and the next one
(`Decimal.toRat_shortest_le`), and only that of zero has no digits
(`Decimal.digits_shortest_pos`).  On the grids that the search goes through, a point is taken only
from the rounding interval; and where the search gives up, the grid has become finer than the
number's last bit.
-/

namespace HybridRetrieval

/-- A point is taken from a grid only if it lies in the interval. -/
theorem RoundingInterval.gridPoint?_bounds {i : RoundingInterval} {step point : Nat}
    (hi : i.low ≤ i.high) (h : i.gridPoint? step = some point) :
    i.low ≤ point * step ∧ point * step ≤ i.high := by
  have hbounds : ∀ x, i.contains x = true → i.low ≤ x ∧ x ≤ i.high := by
    intro x hx
    simp only [contains, Bool.or_eq_true, Bool.and_eq_true, decide_eq_true_eq, beq_iff_eq] at hx
    omega
  apply hbounds
  unfold gridPoint? at h
  simp only at h
  split at h
  · cases h
  · obtain rfl := Option.some.inj h
    assumption
  · obtain rfl := Option.some.inj h
    assumption
  · obtain rfl := Option.some.inj h
    unfold roundDiv
    simp only
    split <;> assumption

/-- The interval reaches from below the value to half a last bit above it. -/
theorem BinaryFormat.interval_bounds (f : BinaryFormat) (s : Scaled) (h : 0 < s.significand) :
    0 < (f.interval s).low ∧ (f.interval s).low ≤ (f.interval s).high ∧
      (f.interval s).value = 4 * s.significand ∧ (f.interval s).high = 4 * s.significand + 2 := by
  have hlow : (f.interval s).low = 4 * s.significand - 1 ∨
      (f.interval s).low = 4 * s.significand - 2 := by
    unfold interval
    simp only
    split
    · exact .inl rfl
    · exact .inr rfl
  have hhigh : (f.interval s).high = 4 * s.significand + 2 := rfl
  exact ⟨by omega, by omega, rfl, hhigh⟩

namespace Decimal

/-- The exact value of a decimal. -/
def toRat (d : Decimal) : ℚ := d.digits * (10 : ℚ) ^ d.exponent

/-- An integer power as a quotient of two natural ones. -/
theorem zpow_toNat {base : ℚ} (hbase : base ≠ 0) (e : Int) :
    base ^ e.toNat = base ^ e * base ^ (-e).toNat := by
  rw [← zpow_natCast, ← zpow_natCast, ← zpow_add₀ hbase]
  congr 1
  omega

/-- **What the search finds**: a point of the interval on some grid, or the value itself on the last
grid. -/
theorem searchGrids_bounds {i : RoundingInterval} (hi : i.low ≤ i.high) (unit : Int) (fuel : Nat)
    (k : Int) :
    searchGrids i unit fuel k = ⟨i.value, k - fuel⟩ ∨
      (i.low * (2 : ℚ) ^ unit ≤ (searchGrids i unit fuel k).toRat ∧
        (searchGrids i unit fuel k).toRat ≤ i.high * 2 ^ unit) := by
  induction fuel generalizing k with
  | zero => left; simp [searchGrids]
  | succ fuel ih =>
      unfold searchGrids
      simp only
      split
      · rename_i point hpoint
        right
        obtain ⟨hlow, hhigh⟩ :=
          RoundingInterval.gridPoint?_bounds (Nat.mul_le_mul_right _ hi) hpoint
        have hlowQ : (i.low : ℚ) * (2 ^ unit.toNat * 10 ^ (-k).toNat) ≤
            point * (2 ^ (-unit).toNat * 10 ^ k.toNat) := by exact_mod_cast hlow
        have hhighQ : (point : ℚ) * (2 ^ (-unit).toNat * 10 ^ k.toNat) ≤
            i.high * (2 ^ unit.toNat * 10 ^ (-k).toNat) := by exact_mod_cast hhigh
        rw [zpow_toNat (two_ne_zero' ℚ) unit, zpow_toNat (by norm_num : (10 : ℚ) ≠ 0) k]
          at hlowQ hhighQ
        have hcommon : (0 : ℚ) < 2 ^ (-unit).toNat * 10 ^ (-k).toNat := by positivity
        rw [toRat]
        constructor
        · refine le_of_mul_le_mul_right ?_ hcommon
          linarith
        · refine le_of_mul_le_mul_right ?_ hcommon
          linarith
      · obtain heq | hbounds := ih (k - 1)
        · left
          rw [heq]
          congr 1
          push_cast
          ring
        · exact .inr hbounds

/-- The search begins less than one place above the number. -/
theorem topExponent_le {num den : Nat} (hnum : 0 < num) (hden : 0 < den) :
    (10 : ℚ) ^ topExponent num den ≤ 10 * (num / den) := by
  have hdenQ : (0 : ℚ) < den := by exact_mod_cast hden
  have hten : (10 : ℚ) ≠ 0 := by norm_num
  unfold topExponent
  split
  · rename_i hle
    have hquotient : 0 < num / den := Nat.div_pos hle hden
    obtain ⟨n, hlength⟩ := Nat.exists_eq_add_one_of_ne_zero
      (show (digitChars (num / den)).length ≠ 0 from Nat.length_toDigits_pos.ne')
    have hpower : 10 ^ n ≤ num / den := by
      rcases Nat.eq_zero_or_pos n with rfl | hn
      · exact hquotient
      · by_contra hlt
        have := (Nat.length_toDigits_le_iff (by decide : 1 < 10) hn).mpr (not_le.mp hlt)
        rw [digitChars] at hlength
        omega
    have hratio : (10 : ℚ) ^ n ≤ num / den := by
      rw [le_div_iff₀ hdenQ]
      exact_mod_cast (Nat.le_div_iff_mul_le hden).mp hpower
    rw [hlength, zpow_natCast, pow_succ]
    linarith
  · have hlength : 0 < (digitChars (den / num)).length := Nat.length_toDigits_pos
    have hpower : den / num < 10 ^ (digitChars (den / num)).length :=
      (Nat.length_toDigits_le_iff (by decide) hlength).mp le_rfl
    have hproduct : (den : ℚ) < 10 ^ (digitChars (den / num)).length * num := by
      exact_mod_cast (Nat.div_lt_iff_lt_mul hnum).mp hpower
    rw [zpow_sub₀ hten, zpow_one, zpow_natCast, div_eq_mul_inv]
    gcongr
    rw [inv_le_iff_one_le_mul₀ (by positivity), div_mul_eq_mul_div, one_le_div hdenQ]
    linarith

variable {f : BinaryFormat} {bits : Nat}

theorem shortest_zero (h : (f.decode bits).significand = 0) : shortest f bits = ⟨0, 0⟩ := by
  rw [shortest]
  exact if_pos h

/-- **Where the shortest decimal lies.**  That of a number other than zero has digits, and is not
above the middle between the number and the next one. -/
theorem shortest_bounds (hbinade : 8 * f.binade ≤ 10 ^ 19) (h : (f.decode bits).significand ≠ 0) :
    (shortest f bits).digits ≠ 0 ∧
      (shortest f bits).toRat ≤
        ((f.decode bits).significand + 1 / 2) * 2 ^ (f.decode bits).exponent := by
  have hsignificand := f.significand_decode_lt bits
  rw [shortest]
  simp only [h, if_false]
  generalize f.decode bits = s at *
  obtain ⟨hlow, hlowHigh, hvalue, hhigh⟩ := f.interval_bounds s (Nat.pos_of_ne_zero h)
  have hhalf : ((f.interval s).high : ℚ) * 2 ^ (s.exponent - 2) =
      (s.significand + 1 / 2) * 2 ^ s.exponent := by
    rw [hhigh, zpow_sub₀ (two_ne_zero' ℚ)]
    push_cast
    ring
  obtain heq | ⟨hbelow, habove⟩ := searchGrids_bounds hlowHigh (s.exponent - 2) searchDepth
    (topExponent (scaleRatio 2 s.significand 1 (-s.exponent)).1
      (scaleRatio 2 s.significand 1 (-s.exponent)).2)
  · rw [heq]
    refine ⟨by simp only [hvalue]; omega, ?_⟩
    obtain ⟨hden, hratio⟩ :=
      scaleRatio_div (show 0 < 2 by decide) s.significand one_pos (-s.exponent)
    have hsignificandQ : (4 * s.significand : ℚ) ≤ 10 ^ 19 := by exact_mod_cast (by omega)
    have hmagnitude : (0 : ℚ) < s.significand * 2 ^ s.exponent := by
      have : (0 : ℚ) < s.significand := by exact_mod_cast Nat.pos_of_ne_zero h
      positivity
    rw [Nat.cast_one, div_one, Nat.cast_ofNat, zpow_neg, div_inv_eq_mul] at hratio
    have hnum : 0 < (scaleRatio 2 s.significand 1 (-s.exponent)).1 := by
      rw [← hratio] at hmagnitude
      by_contra hzero
      rw [Nat.eq_zero_of_not_pos hzero] at hmagnitude
      simp at hmagnitude
    have htop := topExponent_le hnum hden
    rw [hratio] at htop
    generalize topExponent (scaleRatio 2 s.significand 1 (-s.exponent)).1
      (scaleRatio 2 s.significand 1 (-s.exponent)).2 = top at *
    have htopPos : (0 : ℚ) < 10 ^ top := by positivity
    rw [toRat, hvalue, searchDepth, zpow_sub₀ (by norm_num), zpow_natCast, mul_div_assoc',
      div_le_iff₀ (by norm_num)]
    push_cast
    calc 4 * (s.significand : ℚ) * 10 ^ top
        ≤ 10 ^ 19 * (10 * (s.significand * 2 ^ s.exponent)) := by
          apply mul_le_mul hsignificandQ htop htopPos.le (by norm_num)
      _ = s.significand * 2 ^ s.exponent * 10 ^ 20 := by ring
      _ ≤ (s.significand + 1 / 2) * 2 ^ s.exponent * 10 ^ 20 := by
          gcongr
          linarith
  · refine ⟨?_, hhalf ▸ habove⟩
    intro hzero
    have hlowQ : (0 : ℚ) < (f.interval s).low := by exact_mod_cast hlow
    have hbottom : (0 : ℚ) < (f.interval s).low * 2 ^ (s.exponent - 2) := by positivity
    rw [toRat, hzero, Nat.cast_zero, zero_mul] at hbelow
    exact absurd hbelow (not_le.mpr hbottom)

end Decimal

end HybridRetrieval
