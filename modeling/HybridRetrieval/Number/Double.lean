import HybridRetrieval.Number.Single
/-!
# 64-bit numbers

A `Double` is a bit pattern, like a `Single`.  Sums, differences, products and quotients are the
exact ones rounded to the nearest number, a tie going to the even pattern.  Widening a `Single` is
exact; narrowing rounds like arithmetic.
-/

namespace HybridRetrieval

/-- A 64-bit floating-point number, as its bit pattern. -/
structure Double where
  bits : UInt64
deriving DecidableEq, Repr

namespace Double

def zero : Double := ⟨0x0000000000000000⟩

def one : Double := ⟨0x3ff0000000000000⟩

def isNaN (x : Double) : Bool := BinaryFormat.double.isNaN x.bits.toNat

def isFinite (x : Double) : Bool := BinaryFormat.double.isFinite x.bits.toNat

def isInfinite (x : Double) : Bool := !x.isFinite && !x.isNaN

def isNegative (x : Double) : Bool := BinaryFormat.double.isNegative x.bits.toNat

/-- Zero of either sign. -/
def isZero (x : Double) : Bool := BinaryFormat.double.magnitude x.bits.toNat == 0

/-- The pattern without its sign, in ascending order of absolute values. -/
def magnitude (x : Double) : Nat := BinaryFormat.double.magnitude x.bits.toNat

/-- The place of a number in ascending order; both zeros share one place. -/
def rank (x : Double) : Int := if x.isNegative then -(x.magnitude : Int) else x.magnitude

/-- The number with its sign flipped. -/
def neg (x : Double) : Double := ⟨x.bits ^^^ 0x8000000000000000⟩

/-- The exact value of a finite number. -/
def toRat? (x : Double) : Option Rat := BinaryFormat.double.toRat? x.bits.toNat

/-- The magnitude of a finite number. -/
def decode (x : Double) : Scaled := BinaryFormat.double.decode x.bits.toNat

/-- The number with this sign and the pattern of its magnitude. -/
def ofMagnitude (negative : Bool) (magnitude : Nat) : Double :=
  ⟨.ofNat (BinaryFormat.double.withSign negative magnitude)⟩

/-- The quiet pattern that is not a number. -/
def nan : Double :=
  ofMagnitude false (BinaryFormat.double.infinity + BinaryFormat.double.binade / 2)

/-- Infinity with this sign. -/
def infinite (negative : Bool) : Double := ofMagnitude negative BinaryFormat.double.infinity

/-- The number with this sign that is nearest to a ratio times a power of two. -/
def ofScaledRatio (negative : Bool) (num den : Nat) (exponent : Int) : Double :=
  let ratio := scaleRatio 2 num den (-exponent)
  ofMagnitude negative (BinaryFormat.double.ofRatio ratio.1 ratio.2)

/-- The number nearest to an exact value. -/
def ofRat (value : Rat) : Double := ⟨.ofNat (BinaryFormat.double.ofRat value)⟩

/-- The number nearest to an integer. -/
def ofInt (value : Int) : Double := ofRat value

/-- The difference.  Equal numbers leave a positive zero, except for a negative zero less a positive
one. -/
protected def sub (x y : Double) : Double :=
  match x.toRat?, y.toRat? with
  | some a, some b =>
    if a = b then ofMagnitude (x.isNegative && !y.isNegative) 0 else ofRat (a - b)
  | _, _ =>
    if x.isNaN || y.isNaN then nan
    else if x.isInfinite then
      if y.isInfinite && x.isNegative == y.isNegative then nan else x
    else infinite !y.isNegative

/-- The sum. -/
protected def add (x y : Double) : Double := x.sub y.neg

/-- The product. -/
protected def mul (x y : Double) : Double :=
  let negative := x.isNegative != y.isNegative
  if x.isFinite && y.isFinite then
    ofScaledRatio negative (x.decode.significand * y.decode.significand) 1
      (x.decode.exponent + y.decode.exponent)
  else if x.isNaN || y.isNaN || x.isZero || y.isZero then nan
  else infinite negative

/-- The quotient. -/
protected def div (x y : Double) : Double :=
  let negative := x.isNegative != y.isNegative
  if x.isFinite && y.isFinite && !y.isZero then
    ofScaledRatio negative x.decode.significand y.decode.significand
      (x.decode.exponent - y.decode.exponent)
  else if x.isNaN || y.isNaN || (x.isZero && y.isZero) || (x.isInfinite && y.isInfinite) then nan
  else if x.isFinite && y.isInfinite then ofMagnitude negative 0
  else infinite negative

instance : Add Double := ⟨Double.add⟩
instance : Sub Double := ⟨Double.sub⟩
instance : Mul Double := ⟨Double.mul⟩
instance : Div Double := ⟨Double.div⟩

/-- Equality of numbers: both zeros are equal and what is not a number equals nothing. -/
def numericEq (x y : Double) : Bool :=
  !x.isNaN && !y.isNaN && (x == y || (x.isZero && y.isZero))

/-- The nearest 32-bit number. -/
def toSingle (x : Double) : Single :=
  ⟨.ofNat (BinaryFormat.double.convert .single x.bits.toNat)⟩

end Double

/-- The same number in 64 bits. -/
def Single.toDouble (x : Single) : Double :=
  ⟨.ofNat (BinaryFormat.single.convert .double x.bits.toNat)⟩

end HybridRetrieval
