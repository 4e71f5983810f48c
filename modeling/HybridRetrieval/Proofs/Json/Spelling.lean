import HybridRetrieval.Json.Reader
/-!
# The parts of a number's text

A `Spelling` is the text of a number taken apart.  Whatever is put together from sound parts is read
as one number up to the comma or bracket behind it (`Spelling.readScalar_text`), and taken apart
again into the same parts (`Spelling.ofText_text`).
-/

namespace HybridRetrieval.Json

/-- Digits and nothing else. -/
def IsDigits (cs : List Char) : Prop := ∀ c ∈ cs, c.isDigit = true

/-- The first character, if there is one, is no digit. -/
def DigitsEnd (cs : List Char) : Prop := ∀ c, cs.head? = some c → c.isDigit = false

/-- What may stand behind a value in a text without blanks. -/
def Delimited (cs : List Char) : Prop := ∀ c, cs.head? = some c → c = ',' ∨ c = ']' ∨ c = '}'

theorem Delimited.cons {c : Char} {rest : List Char} (h : c = ',' ∨ c = ']' ∨ c = '}') :
    Delimited (c :: rest) := by
  rintro _ ⟨⟩
  exact h

theorem Delimited.digitsEnd {cs : List Char} (h : Delimited cs) : DigitsEnd cs := by
  intro c hc
  rcases h c hc with rfl | rfl | rfl <;> rfl

/-- A run of digits is taken whole, and what follows is left. -/
theorem span_digits {digits rest : List Char} (hdigits : IsDigits digits) (hrest : DigitsEnd rest) :
    (digits ++ rest).takeWhile Char.isDigit = digits ∧
      (digits ++ rest).dropWhile Char.isDigit = rest := by
  rw [List.takeWhile_append_of_pos hdigits, List.dropWhile_append_of_pos hdigits]
  cases rest with
  | nil => simp
  | cons c rest =>
      have hc : ¬ c.isDigit = true := by simp [hrest c rfl]
      rw [List.takeWhile_cons_of_neg hc, List.dropWhile_cons_of_neg hc]
      simp

/-- The text of a number in its parts: the sign, the digits before and after the point, and the
exponent with its sign.  Without digits after it there is no point. -/
structure Spelling where
  negative : Bool
  whole : List Char
  fraction : List Char := []
  exponent : Option (Bool × List Char) := none

namespace Spelling

/-- The point and the digits after it. -/
def fractionText (s : Spelling) : List Char := if s.fraction = [] then [] else '.' :: s.fraction

/-- The exponent with its letter and sign. -/
def exponentText (s : Spelling) : List Char :=
  match s.exponent with
  | none => []
  | some (negative, digits) => 'e' :: (if negative then '-' else '+') :: digits

/-- The whole text. -/
def text (s : Spelling) : List Char :=
  (if s.negative then ['-'] else []) ++ (s.whole ++ (s.fractionText ++ s.exponentText))

/-- The exponent's value. -/
def exponentValue (s : Spelling) : Option Int :=
  s.exponent.map fun e =>
    if e.1 then -(Decimal.ofDigitChars e.2 : Int) else Decimal.ofDigitChars e.2

/-- The parts are runs of digits, and the whole part has no superfluous zero. -/
structure Sound (s : Spelling) : Prop where
  whole : s.whole ≠ [] ∧ IsDigits s.whole
  lead : s.whole.head? = some '0' → s.whole.length = 1
  fraction : IsDigits s.fraction
  exponent : ∀ e, s.exponent = some e → e.2 ≠ [] ∧ IsDigits e.2

variable {s : Spelling} {rest : List Char}

/-- The whole part begins with a digit, which begins no other value. -/
theorem Sound.exists_digit (h : s.Sound) : ∃ c more, s.whole = c :: more ∧ c.isDigit = true ∧
    c ≠ 'n' ∧ c ≠ 't' ∧ c ≠ 'f' ∧ c ≠ '-' := by
  obtain ⟨hne, hdigits⟩ := h.whole
  obtain ⟨c, more, hwhole⟩ := List.exists_cons_of_ne_nil hne
  have hc : c.isDigit = true := hdigits c (by simp [hwhole])
  refine ⟨c, more, hwhole, hc, ?_, ?_, ?_, ?_⟩ <;> (rintro rfl; cases hc)

theorem digitsEnd_exponentText (hrest : DigitsEnd rest) : DigitsEnd (s.exponentText ++ rest) := by
  unfold exponentText
  split
  · exact hrest
  · intro c hc
    obtain rfl := Option.some.inj hc
    rfl

theorem digitsEnd_fractionText (hrest : DigitsEnd rest) :
    DigitsEnd (s.fractionText ++ (s.exponentText ++ rest)) := by
  unfold fractionText
  split
  · exact digitsEnd_exponentText hrest
  · intro c hc
    obtain rfl := Option.some.inj hc
    rfl

theorem readAfterDigits_text (h : s.Sound) (hrest : Delimited rest) (before : List Char) :
    readAfterDigits before (s.exponentText ++ rest) =
      (.number (before ++ s.exponentText), some rest) := by
  unfold exponentText
  split
  · cases rest with
    | nil => simp [readAfterDigits]
    | cons c rest => rcases hrest c rfl with rfl | rfl | rfl <;> simp [readAfterDigits]
  · rename_i negative digits heq
    obtain ⟨hne, hdigits⟩ := h.exponent _ heq
    obtain ⟨htake, hdrop⟩ := span_digits hdigits hrest.digitsEnd
    cases negative <;> simp [readAfterDigits, readExponentPart, htake, hdrop, hne]

theorem readAfterWhole_text (h : s.Sound) (hrest : Delimited rest) (before : List Char) :
    readAfterWhole before (s.fractionText ++ (s.exponentText ++ rest)) =
      (.number (before ++ (s.fractionText ++ s.exponentText)), some rest) := by
  have hafter := readAfterDigits_text h hrest
  unfold fractionText
  split
  · have hpoint : ∀ tail, s.exponentText ++ rest ≠ '.' :: tail := by
      intro tail heq
      unfold exponentText at heq
      split at heq
      · rcases hrest '.' (by rw [← List.nil_append rest, heq]; rfl) with hc | hc | hc <;> cases hc
      · simp at heq
    rw [List.nil_append, readAfterWhole.eq_2 _ _ hpoint, hafter, List.nil_append]
  · rename_i hne
    obtain ⟨htake, hdrop⟩ :=
      span_digits h.fraction (digitsEnd_exponentText (s := s) hrest.digitsEnd)
    simp [readAfterWhole, htake, hdrop, hne, hafter]

theorem readUnsigned_text (h : s.Sound) (hrest : Delimited rest) (sign : List Char) :
    readUnsigned sign (s.whole ++ (s.fractionText ++ (s.exponentText ++ rest))) =
      (.number (sign ++ (s.whole ++ (s.fractionText ++ s.exponentText))), some rest) := by
  obtain ⟨htake, hdrop⟩ :=
    span_digits h.whole.2 (digitsEnd_fractionText (s := s) hrest.digitsEnd)
  have hlead : (s.whole.head? == some '0' && decide (1 < s.whole.length)) = false := by
    rw [Bool.and_eq_false_imp]
    intro hzero
    have := h.lead (by simpa using hzero)
    simp [this]
  rw [readUnsigned, htake, hdrop, hlead]
  simp [h.whole.1, readAfterWhole_text h hrest]

/-- **A number is read up to what delimits it.** -/
theorem readScalar_text (h : s.Sound) (hrest : Delimited rest) :
    readScalar (s.text ++ rest) = (.number s.text, some rest) := by
  have hread := readUnsigned_text h hrest
  unfold text
  cases hsign : s.negative with
  | true => simp [readScalar, hread]
  | false =>
      obtain ⟨c, more, hwhole, hc, hother⟩ := h.exists_digit
      have hread := hread []
      rw [hwhole] at hread ⊢
      simpa [readScalar, hother, hc] using hread

theorem ofUnsigned_text (h : s.Sound) :
    Number.Parts.ofUnsigned s.negative (s.whole ++ (s.fractionText ++ s.exponentText)) =
      ⟨s.negative, s.whole, s.fraction, s.exponentValue⟩ := by
  have hnil : DigitsEnd ([] : List Char) := by simp [DigitsEnd]
  have hend := digitsEnd_fractionText (s := s) hnil
  have hend' := digitsEnd_exponentText (s := s) hnil
  rw [List.append_nil] at hend hend'
  obtain ⟨hwhole, hafterWhole⟩ := span_digits h.whole.2 hend
  obtain ⟨hfraction, hafterFraction⟩ := span_digits h.fraction hend'
  have hvalue : s.exponentText = [] ∧ s.exponentValue = none ∨
    ∃ c signed, s.exponentText = c :: signed ∧ c ≠ '.' ∧
      s.exponentValue = some (if (Numeral.splitSign signed).1 then
        -(Decimal.ofDigitChars (Numeral.splitSign signed).2 : Int)
        else Decimal.ofDigitChars (Numeral.splitSign signed).2) := by
    unfold exponentText exponentValue
    cases s.exponent with
    | none => exact .inl ⟨rfl, rfl⟩
    | some e =>
        refine .inr ⟨_, _, rfl, by decide, ?_⟩
        obtain ⟨negative, digits⟩ := e
        cases negative <;> rfl
  unfold Number.Parts.ofUnsigned
  simp only [hwhole, hafterWhole]
  by_cases hempty : s.fraction = []
  · obtain ⟨htext, hnone⟩ | ⟨c, signed, htext, hc, hsome⟩ := hvalue
    · simp [fractionText, hempty, htext, hnone]
    · simp [fractionText, hempty, htext, hsome, hc]
  · obtain ⟨htext, hnone⟩ | ⟨c, signed, htext, hc, hsome⟩ := hvalue <;>
      rw [htext] at hfraction hafterFraction
    · rw [List.append_nil] at hfraction hafterFraction
      simp [fractionText, hempty, htext, hnone, hfraction, hafterFraction]
    · simp [fractionText, hempty, htext, hsome, hfraction, hafterFraction]

/-- **Taken apart, the text gives its parts back.** -/
theorem ofText_text (h : s.Sound) :
    Number.Parts.ofText s.text = ⟨s.negative, s.whole, s.fraction, s.exponentValue⟩ := by
  rw [← ofUnsigned_text h]
  unfold text
  cases s.negative with
  | true => simp [Number.Parts.ofText]
  | false =>
      obtain ⟨c, more, hwhole, hother⟩ := h.exists_digit
      simp [Number.Parts.ofText, hwhole, hother]

end Spelling

end HybridRetrieval.Json
