import HybridRetrieval.Json.Basic
import HybridRetrieval.Number.Shortest
/-!
# The text of JSON numbers

A number is written with the fewest digits that read back, positionally within bounds and with a
signed exponent outside them.  Reading keeps integers of 64 bits; any other number is read as
floating point: the leading digits that fit 64 bits give the significand, which is multiplied or
divided once by the power of ten.
-/

namespace HybridRetrieval

/-- Where positional notation ends: the point stands at most `zerosAfterPoint` places before the
first digit and at most `placesBeforePoint` after it. -/
structure FloatLayout where
  zerosAfterPoint : Int
  placesBeforePoint : Int

/-- The layout of 64-bit numbers. -/
def FloatLayout.double : FloatLayout := ⟨4, 16⟩

/-- The layout of 32-bit numbers. -/
def FloatLayout.single : FloatLayout := ⟨5, 13⟩

/-- The text of a decimal: positional within the layout's bounds, else with an exponent. -/
def FloatLayout.decimalText (layout : FloatLayout) (d : Decimal) : List Char :=
  let digits := Decimal.digitChars d.digits
  let point := digits.length + d.exponent
  if 0 ≤ d.exponent ∧ point ≤ layout.placesBeforePoint then
    digits ++ List.replicate d.exponent.toNat '0' ++ ['.', '0']
  else if 0 < point ∧ point ≤ layout.placesBeforePoint then
    digits.take point.toNat ++ '.' :: digits.drop point.toNat
  else if -layout.zerosAfterPoint ≤ point ∧ point ≤ 0 then
    '0' :: '.' :: (List.replicate (-point).toNat '0' ++ digits)
  else
    let exponent := point - 1
    let sign := if exponent < 0 then '-' else '+'
    digits.take 1 ++ (if digits.length = 1 then [] else '.' :: digits.drop 1) ++
      'e' :: sign :: Decimal.digitChars exponent.natAbs

/-- The text of a finite floating-point number. -/
def floatText (f : BinaryFormat) (layout : FloatLayout) (bits : Nat) : List Char :=
  (if f.isNegative bits then ['-'] else []) ++ layout.decimalText (Decimal.shortest f bits)

/-- The decimal text of an integer. -/
def integerText (value : Int) : List Char :=
  (if value < 0 then ['-'] else []) ++ Decimal.digitChars value.natAbs

namespace Json.Number

/-- The text of a number. -/
def text : Number → List Char
  | .integer value _ => integerText value
  | .real value _ => floatText .double .double value.bits.toNat

/-- The parts of a number's text. -/
structure Parts where
  negative : Bool
  whole : List Char
  fraction : List Char
  exponent : Option Int
deriving Repr

/-- Takes apart a text that has the form of a number, from behind its sign. -/
def Parts.ofUnsigned (negative : Bool) (cs : List Char) : Parts :=
  let afterWhole := cs.dropWhile Char.isDigit
  let fraction := match afterWhole with
    | '.' :: rest => rest.takeWhile Char.isDigit
    | _ => []
  let afterFraction := match afterWhole with
    | '.' :: rest => rest.dropWhile Char.isDigit
    | _ => afterWhole
  let exponent := match afterFraction with
    | [] => none
    | _ :: rest =>
      let signed := Numeral.splitSign rest
      let magnitude : Int := Decimal.ofDigitChars signed.2
      some (if signed.1 then -magnitude else magnitude)
  ⟨negative, cs.takeWhile Char.isDigit, fraction, exponent⟩

/-- Takes apart a text that has the form of a number. -/
def Parts.ofText : List Char → Parts
  | '-' :: rest => ofUnsigned true rest
  | cs => ofUnsigned false cs

/-- The largest significand that is kept. -/
def maxSignificand : Nat := unsignedBound - 1

/-- Extends a significand by digits as long as it fits 64 bits, and counts the digits left over. -/
def extendSignificand (significand : Nat) : List Char → Nat × Nat
  | [] => (significand, 0)
  | c :: rest =>
    let next := 10 * significand + (c.toNat - '0'.toNat)
    if next ≤ maxSignificand then extendSignificand next rest else (significand, rest.length + 1)

/-- The largest power of ten that a 64-bit number holds. -/
def maxPower : Nat := 308

/-- The 64-bit number nearest to a power of ten. -/
def powerOfTen (n : Nat) : Double := Decimal.toDouble ⟨1, n⟩

/-- Divides by powers of ten until the exponent is used up; zero needs no division. -/
def divideByPower : (rounds : Nat) → Double → Nat → Double
  | 0, x, _ => x
  | rounds + 1, x, n =>
    if n ≤ maxPower then x / powerOfTen n
    else if x.isZero then x
    else divideByPower rounds (x / powerOfTen maxPower) (n - maxPower)

/-- The significand times a power of ten; none if it overflows. -/
def scaleByPower? (x : Double) (exponent : Int) : Option Double :=
  if exponent < 0 then some (divideByPower 4 x exponent.natAbs)
  else if exponent ≤ maxPower then
    let scaled := x * powerOfTen exponent.toNat
    if scaled.isFinite then some scaled else none
  else if x.isZero then some x
  else none

/-- The floating-point number that the parts spell; none if it is out of range.  Digits of the whole
part that are left over count as powers of ten; those of the fraction are dropped. -/
def Parts.toDouble? (p : Parts) : Option Double :=
  let whole := extendSignificand 0 p.whole
  let all := extendSignificand whole.1 p.fraction
  let places : Int := (p.fraction.length - all.2 : Nat)
  let exponent := whole.2 - places + p.exponent.getD 0
  (scaleByPower? (Double.ofInt all.1) exponent).map fun x => if p.negative then x.neg else x

/-- The integer that the parts spell, if they have the form of one and 64 bits hold it; a negative
zero is no integer. -/
def Parts.toInt? (p : Parts) : Option Int :=
  let n : Int := Decimal.ofDigitChars p.whole
  if p.fraction ≠ [] ∨ p.exponent.isSome then none
  else if p.negative then (if 0 < n ∧ n ≤ signedBound then some (-n) else none)
  else if n < unsignedBound then some n
  else none

/-- Reads a text that has the form of a number; none if the number is out of range. -/
def ofText? (cs : List Char) : Option Number :=
  let parts := Parts.ofText cs
  match parts.toInt?.bind ofInt? with
  | some n => some n
  | none => parts.toDouble?.bind ofDouble?

end Json.Number

end HybridRetrieval
