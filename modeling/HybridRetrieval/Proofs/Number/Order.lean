import HybridRetrieval.Proofs.Number.Arithmetic
/-!
# The order of numbers

Searches compare numbers by their places among the bit patterns (`Single.rank`, `Double.rank`).
That is the order of the exact values: a larger pattern stands for a larger magnitude
(`toRat_decode_lt`), and the sign turns the order of magnitudes around (`place_le_iff`).
-/

namespace HybridRetrieval

namespace BinaryFormat

variable {f : BinaryFormat}

/-- The next pattern stands for a larger magnitude: both are counted in the same binade. -/
theorem toRat_decode_lt_succ (hprecision : 0 < f.precision) {m : Nat} (h : m + 1 < f.infinity) :
    (f.decode m).toRat < (f.decode (m + 1)).toRat := by
  have hbinade := f.binade_pos
  obtain ⟨steps, count, rfl, hcount, hfull⟩ : ∃ steps count, m = steps * f.binade + count ∧
      count + 1 ≤ 2 * f.binade ∧ (steps = 0 ∨ f.binade ≤ count) := by
    by_cases hsmall : m < f.binade
    · exact ⟨0, m, by omega, by omega, Or.inl rfl⟩
    · -- one binade is kept back for the leading bit
      have hrest := Nat.mod_lt m hbinade
      have hdiv := Nat.div_add_mod m f.binade
      have hfield : 1 ≤ m / f.binade := (Nat.one_le_div_iff hbinade).mpr (by omega)
      refine ⟨m / f.binade - 1, m % f.binade + f.binade, ?_, by omega, Or.inr (by omega)⟩
      rw [Nat.sub_one_mul, Nat.mul_comm]
      have hone : f.binade * 1 ≤ f.binade * (m / f.binade) := Nat.mul_le_mul_left _ hfield
      omega
  have hpower : (0 : ℚ) < 2 ^ (f.leastExponent + steps) := by positivity
  rw [Nat.add_assoc] at h ⊢
  rw [toRat_decode hprecision (by omega) hfull (by omega),
    toRat_decode hprecision hcount (hfull.imp id (by omega)) h]
  gcongr
  exact Nat.lt_succ_self count

/-- A larger pattern stands for a larger magnitude. -/
theorem toRat_decode_lt (hprecision : 0 < f.precision) {m n : Nat} (hlt : m < n)
    (hn : n < f.infinity) : (f.decode m).toRat < (f.decode n).toRat := by
  induction n with
  | zero => omega
  | succ n ih =>
      have hstep := toRat_decode_lt_succ hprecision hn
      rcases Nat.lt_succ_iff_lt_or_eq.mp hlt with hbelow | rfl
      · exact (ih hbelow (by omega)).trans hstep
      · exact hstep

/-- Magnitudes are ordered like their patterns. -/
theorem toRat_decode_le_iff (hprecision : 0 < f.precision) {m n : Nat} (hm : m < f.infinity)
    (hn : n < f.infinity) : (f.decode m).toRat ≤ (f.decode n).toRat ↔ m ≤ n := by
  constructor
  · intro hle
    by_contra hlt
    exact absurd (toRat_decode_lt hprecision (not_le.mp hlt) hm) (not_lt.mpr hle)
  · intro hle
    rcases Nat.lt_or_eq_of_le hle with hlt | rfl
    · exact (toRat_decode_lt hprecision hlt hn).le
    · exact le_refl _

/-- The place of a pattern in ascending order; both zeros share one place. -/
def place (f : BinaryFormat) (bits : Nat) : Int :=
  if f.isNegative bits then -(f.magnitude bits : Int) else f.magnitude bits

/-- **Values are ordered like the places of their patterns.** -/
theorem place_le_iff (hprecision : 0 < f.precision) {a b : Nat} {x y : ℚ}
    (hx : f.toRat? a = some x) (hy : f.toRat? b = some y) : f.place a ≤ f.place b ↔ x ≤ y := by
  have hzero : (f.decode 0).toRat = 0 := by
    rw [Scaled.toRat_eq, decode]
    simp [magnitude]
  -- a finite pattern has the value of its magnitude, with its sign
  have hvalue : ∀ {c : Nat} {z : ℚ}, f.toRat? c = some z → f.magnitude c < f.infinity ∧
      z = if f.isNegative c then -(f.decode (f.magnitude c)).toRat
        else (f.decode (f.magnitude c)).toRat := by
    intro c z hz
    unfold toRat? at hz
    split at hz
    · rename_i hfinite
      have hlt : f.magnitude c < f.infinity := of_decide_eq_true hfinite
      have hsame : f.decode (f.magnitude c) = f.decode c := decode_eq_of_magnitude
        (Nat.mod_eq_of_lt (hlt.trans (infinity_lt_signWeight hprecision)))
      rw [hsame]
      exact ⟨hlt, (Option.some.inj hz).symm⟩
    · cases hz
  have hinfinity : 0 < f.infinity := (hvalue hx).1.trans_le' (Nat.zero_le _)
  obtain ⟨ha, rfl⟩ := hvalue hx
  obtain ⟨hb, rfl⟩ := hvalue hy
  have hnonneg : ∀ {m : Nat}, m < f.infinity → 0 ≤ (f.decode m).toRat := fun hm => by
    rw [← hzero]
    exact (toRat_decode_le_iff hprecision hinfinity hm).mpr (Nat.zero_le _)
  have hpos : ∀ {m : Nat}, m < f.infinity → ((f.decode m).toRat ≤ 0 ↔ m ≤ 0) := fun hm => by
    rw [← hzero]
    exact toRat_decode_le_iff hprecision hm hinfinity
  have hle := toRat_decode_le_iff hprecision ha hb
  have hge := toRat_decode_le_iff hprecision hb ha
  have hna := hnonneg ha
  have hnb := hnonneg hb
  unfold place
  cases f.isNegative a <;> cases f.isNegative b <;>
    simp only [if_true, if_false, Bool.false_eq_true]
  · rw [hle]
    omega
  · -- a number that is not negative is at most one that is only if both are zero
    constructor
    · intro h
      have hma : (f.decode (f.magnitude a)).toRat ≤ 0 := (hpos ha).mpr (by omega)
      have hmb : (f.decode (f.magnitude b)).toRat ≤ 0 := (hpos hb).mpr (by omega)
      linarith
    · intro h
      have hma := (hpos ha).mp (by linarith)
      have hmb := (hpos hb).mp (by linarith)
      omega
  · exact ⟨fun _ => by linarith, fun _ => by omega⟩
  · rw [neg_le_neg_iff, neg_le_neg_iff, hge]
    omega

end BinaryFormat

/-- 32-bit numbers are ordered by their exact values. -/
theorem Single.rank_le_iff {x y : Single} {a b : ℚ}
    (hx : BinaryFormat.single.toRat? x.bits.toNat = some a)
    (hy : BinaryFormat.single.toRat? y.bits.toNat = some b) : x.rank ≤ y.rank ↔ a ≤ b :=
  BinaryFormat.place_le_iff (by decide) hx hy

/-- 64-bit numbers are ordered by their exact values. -/
theorem Double.rank_le_iff {x y : Double} {a b : ℚ} (hx : x.toRat? = some a)
    (hy : y.toRat? = some b) : x.rank ≤ y.rank ↔ a ≤ b :=
  BinaryFormat.place_le_iff (by decide) hx hy

end HybridRetrieval
