/-!
# Binary floating-point formats

A format is given by the number of significant bits and the width of the exponent field.  Its bit
patterns, read as numbers, list the non-negative values in ascending order, so rounding a ratio to
the format is one division: pick the weight of the last bit, round the quotient half to even, and
the pattern is the number of the step that was reached.  `BinaryFormat.decode` goes back to an
integer times a power of two.
-/

namespace HybridRetrieval

/-- The quotient rounded to the nearest integer, a half going to the even neighbour. -/
def roundDiv (num den : Nat) : Nat :=
  let quotient := num / den
  let remainder := num % den
  if den < 2 * remainder ∨ (den = 2 * remainder ∧ quotient % 2 = 1) then quotient + 1 else quotient

/-- The ratio `num / den` divided by `base ^ e`, again as a ratio. -/
def scaleRatio (base num den : Nat) (e : Int) : Nat × Nat :=
  if 0 ≤ e then (num, den * Nat.pow base e.toNat)
  else (num * Nat.pow base (-e).toNat, den)

/-- The largest `e` with `2 ^ e ≤ num / den`, for a positive ratio. -/
def floorLog2 (num den : Nat) : Int :=
  let e : Int := (num.log2 : Int) - den.log2
  let scaled := scaleRatio 2 num den e
  if scaled.2 ≤ scaled.1 then e else e - 1

/-- A binary interchange format: significant bits, the leading one included, and exponent bits. -/
structure BinaryFormat where
  precision : Nat
  exponentWidth : Nat
deriving DecidableEq, Repr

/-- A non-negative number, as an integer times a power of two. -/
structure Scaled where
  significand : Nat
  exponent : Int
deriving DecidableEq, Repr

/-- The exact value of a scaled integer. -/
def Scaled.toRat (s : Scaled) : Rat :=
  if 0 ≤ s.exponent then (s.significand * Nat.pow 2 s.exponent.toNat : Nat)
  else mkRat s.significand (Nat.pow 2 (-s.exponent).toNat)

namespace BinaryFormat

/-- The format of 32-bit numbers. -/
def single : BinaryFormat := ⟨24, 8⟩

/-- The format of 64-bit numbers. -/
def double : BinaryFormat := ⟨53, 11⟩

/-- The exponent of the last bit of the smallest numbers. -/
def leastExponent (f : BinaryFormat) : Int :=
  3 - (Nat.pow 2 (f.exponentWidth - 1) : Nat) - f.precision

/-- The number of patterns that share an exponent. -/
def binade (f : BinaryFormat) : Nat := Nat.pow 2 (f.precision - 1)

/-- The pattern of infinity; every larger one below the sign bit is not a number. -/
def infinity (f : BinaryFormat) : Nat := (Nat.pow 2 f.exponentWidth - 1) * f.binade

/-- The weight of the sign bit. -/
def signWeight (f : BinaryFormat) : Nat := Nat.pow 2 (f.exponentWidth + f.precision - 1)

/-- The pattern without its sign. -/
def magnitude (f : BinaryFormat) (bits : Nat) : Nat := bits % f.signWeight

/-- Whether the sign bit is set. -/
def isNegative (f : BinaryFormat) (bits : Nat) : Bool := f.signWeight ≤ bits

def isNaN (f : BinaryFormat) (bits : Nat) : Bool := f.infinity < f.magnitude bits

def isFinite (f : BinaryFormat) (bits : Nat) : Bool := f.magnitude bits < f.infinity

/-- The magnitude of a finite pattern. -/
def decode (f : BinaryFormat) (bits : Nat) : Scaled :=
  let magnitude := f.magnitude bits
  let field := magnitude / f.binade
  if field = 0 then ⟨magnitude, f.leastExponent⟩
  else ⟨magnitude % f.binade + f.binade, f.leastExponent + field - 1⟩

/-- The pattern of the number nearest to `num / den`, ties going to the even pattern; a ratio
beyond the largest number rounds to infinity. -/
def ofRatio (f : BinaryFormat) (num den : Nat) : Nat :=
  if num = 0 then 0
  else
    let e := max f.leastExponent (floorLog2 num den - (f.precision - 1))
    let scaled := scaleRatio 2 num den e
    min f.infinity ((e - f.leastExponent).toNat * f.binade + roundDiv scaled.1 scaled.2)

/-- A magnitude with the given sign. -/
def withSign (f : BinaryFormat) (negative : Bool) (magnitude : Nat) : Nat :=
  if negative then f.signWeight + magnitude else magnitude

/-- The pattern of the number nearest to an exact value; zero is positive. -/
def ofRat (f : BinaryFormat) (value : Rat) : Nat :=
  f.withSign (value.num < 0) (f.ofRatio value.num.natAbs value.den)

/-- The exact value of a finite pattern; infinities and what is not a number have none. -/
def toRat? (f : BinaryFormat) (bits : Nat) : Option Rat :=
  if f.isFinite bits then
    some (if f.isNegative bits then -(f.decode bits).toRat else (f.decode bits).toRat)
  else none

/-- Changes the format: a number goes to the nearest one of the target, infinity to infinity and
what is not a number to the quiet pattern. -/
def convert (source target : BinaryFormat) (bits : Nat) : Nat :=
  if source.isNaN bits then target.infinity + target.binade / 2
  else if source.isFinite bits then
    let value := source.decode bits
    let ratio := scaleRatio 2 value.significand 1 (-value.exponent)
    target.withSign (source.isNegative bits) (target.ofRatio ratio.1 ratio.2)
  else target.withSign (source.isNegative bits) target.infinity

end BinaryFormat

end HybridRetrieval
