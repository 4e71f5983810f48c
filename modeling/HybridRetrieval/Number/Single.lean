import HybridRetrieval.Number.BinaryFormat
/-!
# 32-bit numbers

A `Single` is a bit pattern, so that what is stored is what is read back, payloads of patterns that
are not numbers included.  Arithmetic goes through the machine's numbers; comparison and conversion
read the pattern.
-/

namespace HybridRetrieval

/-- A 32-bit floating-point number, as its bit pattern. -/
structure Single where
  bits : UInt32
deriving DecidableEq, Repr

namespace Single

/-- The machine number with this pattern. -/
def toFloat (x : Single) : Float32 := Float32.ofBits x.bits

/-- The pattern of a machine number. -/
def ofFloat (x : Float32) : Single := ⟨x.toBits⟩

instance : Add Single := ⟨fun x y => ofFloat (x.toFloat + y.toFloat)⟩
instance : Sub Single := ⟨fun x y => ofFloat (x.toFloat - y.toFloat)⟩
instance : Mul Single := ⟨fun x y => ofFloat (x.toFloat * y.toFloat)⟩
instance : Div Single := ⟨fun x y => ofFloat (x.toFloat / y.toFloat)⟩

def sqrt (x : Single) : Single := ofFloat x.toFloat.sqrt

def zero : Single := ⟨0x00000000⟩

/-- Zero with its sign bit set: the neutral element of addition. -/
def negZero : Single := ⟨0x80000000⟩

def one : Single := ⟨0x3f800000⟩

def isNaN (x : Single) : Bool := BinaryFormat.single.isNaN x.bits.toNat

def isFinite (x : Single) : Bool := BinaryFormat.single.isFinite x.bits.toNat

/-- Zero of either sign. -/
def isZero (x : Single) : Bool := BinaryFormat.single.magnitude x.bits.toNat == 0

/-- The place of a number in ascending order; both zeros share one place. -/
def rank (x : Single) : Int :=
  let magnitude : Int := BinaryFormat.single.magnitude x.bits.toNat
  if BinaryFormat.single.isNegative x.bits.toNat then -magnitude else magnitude

/-- The number nearest to an exact value. -/
def ofRat (value : Rat) : Single := ⟨.ofNat (BinaryFormat.single.ofRat value)⟩

/-- The number nearest to an integer. -/
def ofInt (value : Int) : Single := ofRat value

end Single

end HybridRetrieval
