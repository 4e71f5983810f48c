import HybridRetrieval.Proofs.Json.Spelling
import HybridRetrieval.Proofs.Number.Shortest
/-!
# The text of numbers

The text of a number is put together from sound parts (`integerSpelling`, `FloatLayout.spelling`).
The parts of a floating-point number stand for the decimal that is written, whichever way the point
is placed (`FloatLayout.toRat_spelling`), and an integer is read back as itself
(`Json.Number.ofText?_integerText`).
-/

namespace HybridRetrieval

open Json

namespace Decimal

theorem isDigits_digitChars (n : Nat) : IsDigits (digitChars n) :=
  fun _ => Nat.isDigit_of_mem_toDigits (by decide) (by decide)

theorem digitChars_ne_nil (n : Nat) : digitChars n ≠ [] := Nat.toDigits_ne_nil

/-- Only zero is written with a leading zero. -/
theorem eq_zero_of_head? {n : Nat} (h : (digitChars n).head? = some '0') : n = 0 := by
  induction n using Nat.base_induction 10 (by decide) with
  | single n hn =>
      rw [digitChars, Nat.toDigits_of_lt_base hn] at h
      revert n
      decide
  | digit n d hd hn ih =>
      obtain ⟨c, more, hdigits⟩ := List.exists_cons_of_ne_nil (digitChars_ne_nil n)
      rw [digitChars, ← Nat.toDigits_append_toDigits (by decide) hn hd] at h
      rw [digitChars] at hdigits ih
      rw [hdigits] at h ih
      exact absurd (ih h) hn.ne'

theorem ofDigitChars_digitChars (n : Nat) : ofDigitChars (digitChars n) = n :=
  Nat.ofDigitChars_ten_toDigits

theorem ofDigitChars_append (front back : List Char) :
    ofDigitChars (front ++ back) = 10 ^ back.length * ofDigitChars front + ofDigitChars back := by
  have happend := Nat.ofDigitChars_append (b := 10) (l := front) (m := back) 0
  rwa [Nat.ofDigitChars_eq_ofDigitChars_zero (l := back)] at happend

theorem ofDigitChars_zeros (n : Nat) : ofDigitChars (List.replicate n '0') = 0 :=
  by
  rw [ofDigitChars, ← Nat.ofDigitChars_eq_foldl, Nat.ofDigitChars_replicate_zero, Nat.mul_zero]

end Decimal

/-- The decimal that the parts of a text stand for. -/
def Json.Spelling.decimal (s : Spelling) : Decimal :=
  ⟨Decimal.ofDigitChars (s.whole ++ s.fraction), s.exponentValue.getD 0 - s.fraction.length⟩

/-- The parts of the text of an integer. -/
def integerSpelling (value : Int) : Spelling :=
  { negative := value < 0, whole := Decimal.digitChars value.natAbs }

theorem text_integerSpelling (value : Int) : (integerSpelling value).text = integerText value := by
  simp [integerSpelling, Spelling.text, Spelling.fractionText, Spelling.exponentText, integerText]

theorem sound_integerSpelling (value : Int) : (integerSpelling value).Sound where
  whole := ⟨Decimal.digitChars_ne_nil _, Decimal.isDigits_digitChars _⟩
  lead := by
    intro hzero
    rw [integerSpelling, Decimal.eq_zero_of_head? hzero]
    rfl
  fraction := by simp [integerSpelling, IsDigits]
  exponent := by simp [integerSpelling]

/-- **An integer is read back.** -/
theorem Json.Number.ofText?_integerText {value : Int}
    (h : -signedBound ≤ value ∧ value < unsignedBound) :
    Json.Number.ofText? (integerText value) = some (.integer value h) := by
  have hvalue : (Json.Number.Parts.ofText (integerText value)).toInt? = some value := by
    rw [← text_integerSpelling, Spelling.ofText_text (sound_integerSpelling value)]
    simp only [Parts.toInt?, integerSpelling, Spelling.exponentValue,
      Decimal.ofDigitChars_digitChars]
    by_cases hnegative : value < 0
    · have habs : (value.natAbs : Int) = -value := by omega
      simp [hnegative, habs]
      omega
    · have habs : (value.natAbs : Int) = value := by omega
      simp [hnegative, habs, h.2]
  simp [ofText?, hvalue, ofInt?, h]

namespace FloatLayout

/-- The parts of the text of a decimal. -/
def spelling (layout : FloatLayout) (negative : Bool) (d : Decimal) : Spelling :=
  let digits := Decimal.digitChars d.digits
  let point := digits.length + d.exponent
  if 0 ≤ d.exponent ∧ point ≤ layout.placesBeforePoint then
    ⟨negative, digits ++ List.replicate d.exponent.toNat '0', ['0'], none⟩
  else if 0 < point ∧ point ≤ layout.placesBeforePoint then
    ⟨negative, digits.take point.toNat, digits.drop point.toNat, none⟩
  else if -layout.zerosAfterPoint ≤ point ∧ point ≤ 0 then
    ⟨negative, ['0'], List.replicate (-point).toNat '0' ++ digits, none⟩
  else
    ⟨negative, digits.take 1, digits.drop 1,
      some (point - 1 < 0, Decimal.digitChars (point - 1).natAbs)⟩

theorem length_digitChars_pos (n : Nat) : 0 < (Decimal.digitChars n).length :=
  Nat.length_toDigits_pos

/-- The parts make up the text. -/
theorem text_spelling (layout : FloatLayout) (negative : Bool) (d : Decimal) :
    (layout.spelling negative d).text =
      (if negative then ['-'] else []) ++ layout.decimalText d := by
  have hlength := length_digitChars_pos d.digits
  unfold spelling decimalText
  simp only
  split
  · simp [Spelling.text, Spelling.fractionText, Spelling.exponentText]
  split
  · rename_i hwhole hpoint
    have hback : ¬ (Decimal.digitChars d.digits).length ≤
        ((Decimal.digitChars d.digits).length + d.exponent).toNat := by omega
    simp [Spelling.text, Spelling.fractionText, Spelling.exponentText, hback]
  split
  · have hback := Decimal.digitChars_ne_nil d.digits
    simp [Spelling.text, Spelling.fractionText, Spelling.exponentText, hback]
  · have hone : (Decimal.digitChars d.digits).tail = [] ↔
        (Decimal.digitChars d.digits).length = 1 := by
      rw [← List.drop_one, List.drop_eq_nil_iff]
      omega
    simp [Spelling.text, Spelling.fractionText, Spelling.exponentText, hone]

/-- The parts are sound, if zero is written without an exponent. -/
theorem sound_spelling (layout : FloatLayout) (negative : Bool) {d : Decimal}
    (hzero : d.digits = 0 → d.exponent = 0) : (layout.spelling negative d).Sound := by
  have hdigits := Decimal.isDigits_digitChars d.digits
  have hzeros : ∀ n, IsDigits (List.replicate n '0') := by
    intro n c hc
    rw [List.eq_of_mem_replicate hc]
    rfl
  obtain ⟨first, more, hcons⟩ := List.exists_cons_of_ne_nil (Decimal.digitChars_ne_nil d.digits)
  have hlead : first = '0' → d.exponent = 0 ∧ more = [] := by
    rintro rfl
    have hnone : d.digits = 0 := Decimal.eq_zero_of_head? (by rw [hcons]; rfl)
    rw [hnone] at hcons
    exact ⟨hzero hnone, (List.cons.inj hcons).2.symm⟩
  unfold spelling
  simp only [hcons] at hdigits ⊢
  split
  · refine ⟨⟨by simp, ?_⟩, ?_, by simp [IsDigits], by simp⟩
    · intro c hc
      exact (List.mem_append.mp hc).elim (hdigits c) (hzeros _ c)
    · intro hhead
      obtain ⟨hexponent, rfl⟩ := hlead (Option.some.inj hhead)
      simp [hexponent]
  split
  · rename_i hpoint
    obtain ⟨place, hplace⟩ : ∃ place, ((first :: more).length + d.exponent).toNat = place + 1 :=
      Nat.exists_eq_add_one_of_ne_zero (by omega)
    rw [hplace]
    refine ⟨⟨by simp, fun c hc => hdigits c (List.mem_of_mem_take hc)⟩, ?_,
      fun c hc => hdigits c (List.mem_of_mem_drop hc), by simp⟩
    intro hhead
    obtain ⟨-, rfl⟩ := hlead (Option.some.inj hhead)
    simp
  split
  · refine ⟨⟨by simp, by simp [IsDigits]⟩, by simp, ?_, by simp⟩
    intro c hc
    exact (List.mem_append.mp hc).elim (hzeros _ c) (hdigits c)
  · refine ⟨⟨by simp, fun c hc => hdigits c (List.mem_of_mem_take hc)⟩, by simp,
      fun c hc => hdigits c (List.mem_of_mem_drop hc), ?_⟩
    rintro e ⟨⟩
    exact ⟨Decimal.digitChars_ne_nil _, Decimal.isDigits_digitChars _⟩

/-- The whole part is no longer than the layout admits. -/
theorem length_whole_spelling (layout : FloatLayout) (negative : Bool) (d : Decimal) :
    ((layout.spelling negative d).whole.length : Int) ≤ max 1 layout.placesBeforePoint := by
  have hlength := length_digitChars_pos d.digits
  unfold spelling
  simp only
  split
  · simp only [List.length_append, List.length_replicate]
    omega
  split
  · simp only [List.length_take]
    omega
  split
  · simp
  · simp

/-- **The parts stand for the decimal.** -/
theorem toRat_spelling (layout : FloatLayout) (negative : Bool) (d : Decimal) :
    (layout.spelling negative d).decimal.toRat = d.toRat := by
  have hlength := length_digitChars_pos d.digits
  unfold spelling
  simp only
  split
  · rename_i hwhole
    obtain ⟨zeros, hzeros⟩ := Int.eq_ofNat_of_zero_le hwhole.1
    have hvalue : Decimal.ofDigitChars (Decimal.digitChars d.digits ++
        List.replicate zeros '0' ++ ['0']) = 10 ^ zeros * d.digits * 10 := by
      rw [Decimal.ofDigitChars_append, Decimal.ofDigitChars_append, Decimal.ofDigitChars_zeros,
        Decimal.ofDigitChars_digitChars, List.length_replicate,
        show Decimal.ofDigitChars ['0'] = 0 from rfl]
      simp [Nat.mul_comm]
    simp only [Spelling.decimal, Spelling.exponentValue, Decimal.toRat, hzeros, Int.toNat_natCast,
      hvalue]
    simp
    ring
  split
  · rename_i hwhole hpoint
    have hexponent : (0 : Int) - ((Decimal.digitChars d.digits).length -
        ((Decimal.digitChars d.digits).length + d.exponent).toNat : Nat) = d.exponent := by omega
    simp only [Spelling.decimal, Spelling.exponentValue, List.take_append_drop, List.length_drop,
      Decimal.ofDigitChars_digitChars, Option.map_none, Option.getD_none, hexponent]
  split
  · rename_i hwhole hpoint hzero
    have hexponent : (0 : Int) - ((-((Decimal.digitChars d.digits).length + d.exponent)).toNat +
        (Decimal.digitChars d.digits).length : Nat) = d.exponent := by omega
    have hvalue : Decimal.ofDigitChars (['0'] ++
        (List.replicate (-((Decimal.digitChars d.digits).length + d.exponent)).toNat '0' ++
          Decimal.digitChars d.digits)) = d.digits := by
      rw [Decimal.ofDigitChars_append, Decimal.ofDigitChars_append, Decimal.ofDigitChars_zeros,
        Decimal.ofDigitChars_digitChars, show Decimal.ofDigitChars ['0'] = 0 from rfl]
      simp
    simp only [Spelling.decimal, Spelling.exponentValue, List.length_append, List.length_replicate,
      Option.map_none, Option.getD_none, hexponent, hvalue]
  · have hexponent : ∀ point : Int, (if point < 0 then -(point.natAbs : Int) else point.natAbs) =
        point := by
      intro point
      split <;> omega
    have hplaces : (Decimal.digitChars d.digits).length + d.exponent - 1 -
        (((Decimal.digitChars d.digits).length - 1 : Nat) : Int) = d.exponent := by omega
    simp only [Spelling.decimal, Spelling.exponentValue, List.take_append_drop, List.length_drop,
      Decimal.ofDigitChars_digitChars, Option.map_some, Option.getD_some, decide_eq_true_eq,
      hexponent, hplaces]

end FloatLayout

end HybridRetrieval
