import HybridRetrieval.Filter.Evaluation
import HybridRetrieval.Proofs.Json.Decoding
/-!
# Values compared by the database

The database compares a stored value with a filter's value after both have lost their JSON types
(`FilterValue.equals`): truth values are numbers there, arrays and objects are texts.  A value that
the filter really means (`FilterValue.Means`) is of its JSON type and equal to it.  Of two that
compare equal this says that they are of one type and, if they are numbers, that the database reads
the stored number as the reader of JSON does (`FilterValue.means_iff`).  A stored truth value,
64-bit integer or string equals the filter's value made of it (`FilterValue.equals_of_ofJson?`).
-/

namespace HybridRetrieval

open Json

/-! ## Exact values of numbers -/

/-- The exact value of a number, if it is finite. -/
def ExactNumber.toRat? : ExactNumber → Option Rat
  | integer value => some value
  | real value => value.toRat?

/-- The exact value of a number, which is finite. -/
def Json.Number.toRat? : Number → Option Rat
  | .integer value _ => some value
  | .real value _ => value.toRat?

/-- The number that the database reads from a number's text. -/
def Json.Number.searched (n : Number) : ExactNumber := .ofSpelling n.text

/-- The exact value of a zero of either sign. -/
theorem Double.toRat?_of_isZero {x : Double} (h : x.isZero = true) : x.toRat? = some 0 := by
  rw [isZero, beq_iff_eq] at h
  have hfinite : BinaryFormat.double.isFinite x.bits.toNat = true := by
    rw [BinaryFormat.isFinite, h]
    decide
  have hdecode : (BinaryFormat.double.decode x.bits.toNat).toRat = 0 := by
    rw [Scaled.toRat_eq, BinaryFormat.decode, h]
    simp
  rw [toRat?, BinaryFormat.toRat?, if_pos hfinite, hdecode]
  simp

/-- Numbers that are equal in floating point have the same exact value, if any. -/
theorem Double.toRat?_eq_of_numericEq {x y : Double} (h : x.numericEq y = true) :
    x.toRat? = y.toRat? := by
  simp only [numericEq, Bool.and_eq_true, Bool.or_eq_true, beq_iff_eq] at h
  obtain ⟨-, rfl | ⟨hx, hy⟩⟩ := h
  · rfl
  · rw [toRat?_of_isZero hx, toRat?_of_isZero hy]

/-- **Numbers that compare equal** have the same exact value, if any. -/
theorem ExactNumber.toRat?_eq_of_equals {a b : ExactNumber} (h : a.equals b = true) :
    a.toRat? = b.toRat? := by
  cases a with
  | integer m =>
      cases b with
      | integer n => rw [beq_iff_eq.mp h]
      | real y => exact (beq_iff_eq.mp h).symm
  | real x =>
      cases b with
      | integer n => exact beq_iff_eq.mp h
      | real y => exact Double.toRat?_eq_of_numericEq h

/-- An integer is read from its digits. -/
theorem readInt?_integerText (value : Int) : readInt? (integerText value) = some value := by
  have hall : (Decimal.digitChars value.natAbs).all Char.isDigit = true :=
    List.all_eq_true.mpr (Decimal.isDigits_digitChars _)
  have hne := Decimal.digitChars_ne_nil value.natAbs
  rw [integerText]
  by_cases hnegative : value < 0
  · have habs : (value.natAbs : Int) = -value := by omega
    rw [if_pos hnegative, List.singleton_append, readInt?, Numeral.readExponent?, Numeral.splitSign]
    simp [hne, hall, Decimal.ofDigitChars_digitChars, habs]
  · have habs : (value.natAbs : Int) = value := by omega
    have hsign : Numeral.splitSign (Decimal.digitChars value.natAbs) =
        (false, Decimal.digitChars value.natAbs) := by
      unfold Numeral.splitSign
      split
      · rename_i heq
        rw [heq] at hall
        exact absurd hall (by simp)
      · rename_i heq
        rw [heq] at hall
        exact absurd hall (by simp)
      · rfl
    rw [if_neg hnegative, List.nil_append, readInt?, Numeral.readExponent?, hsign]
    simp [hne, hall, Decimal.ofDigitChars_digitChars, habs]

/-- A 64-bit integer is read as an integer. -/
theorem ExactNumber.ofSpelling_integerText {value : Int} (h : isSigned64 value = true) :
    ofSpelling (integerText value) = .integer value := by
  rw [ofSpelling, readInt?_integerText, Option.bind_some, signed64?, if_pos h]

/-! ## Values of filters -/

namespace FilterValue

/-- Whether the filter's value is of the JSON type of a value. -/
def isOfType : FilterValue → Json → Bool
  | bool _, .bool _ | integer _, .number _ | float _, .number _ | text _, .string _ => true
  | _, _ => false

/-- **What a filter asks for**: a value of the same JSON type that is equal, numbers by their exact
values. -/
def Means : FilterValue → Json → Prop
  | bool b, .bool c => b = c
  | integer value, .number n => n.toRat? = some (value.toInt : Rat)
  | float value, .number n => n.toRat? = value.toRat?
  | text s, .string u => s = u
  | _, _ => False

/-- Whether the database finds a stored value equal to the filter's. -/
def equals (v : FilterValue) (x : Json) : Bool := (Document.ofJson x).equalsValue v.toSql

/-- What is meant is of the same type. -/
theorem isOfType_of_means {v : FilterValue} {x : Json} (h : v.Means x.reread) :
    v.isOfType x = true := by
  cases v <;> cases x <;> first | rfl | (simp [reread, Means] at h)

end FilterValue

/-- The database and the reader of JSON read the same value from the number's text. -/
def Json.Number.ReadAlike (n : Number) : Prop := n.searched.toRat? = n.reread.toRat?

/-- If the value is a number, both read the same from its text. -/
def Json.ReadAlike : Json → Prop
  | number n => n.ReadAlike
  | _ => True

namespace FilterValue

/-- A stored number that compares equal has the exact value of the number that is bound. -/
theorem toRat?_of_equals_number {v : FilterValue} {n : Number} (h : v.equals (.number n) = true)
    {a : ExactNumber} (ha : v.toSql.exact? = some a) : n.searched.toRat? = a.toRat? := by
  rw [equals, Document.ofJson, Document.equalsValue, ha] at h
  exact ExactNumber.toRat?_eq_of_equals h

/-- **Of a stored value that compares equal** a filter means what is read back exactly if it is of
the filter's JSON type and, if it is a number, read alike by the database. -/
theorem means_iff {v : FilterValue} {x : Json} (h : v.equals x = true) :
    v.Means x.reread ↔ v.isOfType x = true ∧ x.ReadAlike := by
  refine ⟨fun hmeans => ⟨isOfType_of_means hmeans, ?_⟩, ?_⟩
  · cases x with
    | number n =>
        rw [reread] at hmeans
        cases v with
        | integer value =>
            exact (toRat?_of_equals_number h rfl).trans hmeans.symm
        | float value => exact (toRat?_of_equals_number h rfl).trans hmeans.symm
        | bool b => cases hmeans
        | text s => cases hmeans
    | _ => trivial
  · rintro ⟨htype, halike⟩
    cases v with
    | bool b =>
        cases x with
        | bool c => cases b <;> cases c <;> first | rfl | cases h
        | _ => cases htype
    | integer value =>
        cases x with
        | number n => exact halike.symm.trans (toRat?_of_equals_number h rfl)
        | _ => cases htype
    | float value =>
        cases x with
        | number n => exact halike.symm.trans (toRat?_of_equals_number h rfl)
        | _ => cases htype
    | text s =>
        cases x with
        | string u =>
            rw [equals, Document.ofJson, Document.equalsValue, toSql, SqlValue.text?,
              Option.any_some, Text.unescape?_escape, beq_iff_eq] at h
            exact String.toList_injective (Option.some.inj h).symm
        | _ => cases htype

/-- **A stored value equals the filter's value that is made of it**, unless that is floating
point. -/
theorem equals_of_ofJson? {v : FilterValue} {x : Json} (h : ofJson? x = some v)
    (hfloat : ∀ y, v ≠ float y) : v.equals x = true := by
  cases x with
  | bool b =>
      obtain rfl := Option.some.inj h
      cases b <;> decide
  | string s =>
      obtain rfl := Option.some.inj h
      rw [equals, Document.ofJson, Document.equalsValue, Text.unescape?_escape]
      simp [toSql, SqlValue.text?]
  | number n =>
      obtain rfl := Option.some.inj h
      cases n with
      | real value hfinite => exact absurd rfl (hfloat value)
      | integer value hrange =>
          by_cases hsigned : isSigned64 value = true
          · rw [ofNumber, int64?, signed64?, if_pos hsigned, Option.map_some]
            have hvalue : (Int64.ofInt value).toInt = value := by
              rw [isSigned64, Bool.and_eq_true, decide_eq_true_eq, decide_eq_true_eq,
                signedBound] at hsigned
              exact Int64.toInt_ofInt_of_le (by omega) (by omega)
            have hnumber := ExactNumber.ofSpelling_integerText hsigned
            simp [equals, Document.ofJson, Document.equalsValue, toSql, SqlValue.exact?, hvalue,
              Number.text, hnumber, ExactNumber.equals]
          · refine absurd ?_ (hfloat (Double.ofInt value))
            rw [ofNumber, int64?, signed64?, if_neg hsigned, Option.map_none]
  | null | array items | object members => cases h

end FilterValue

end HybridRetrieval
