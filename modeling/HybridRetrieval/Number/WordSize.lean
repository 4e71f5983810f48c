/-!
# Integers of a machine word

The ranges of 64-bit integers with and without a sign.
-/

namespace HybridRetrieval

/-- One more than the largest 64-bit integer with a sign. -/
def signedBound : Nat := 0x8000000000000000

/-- One more than the largest 64-bit integer without a sign. -/
def unsignedBound : Nat := 0x10000000000000000

/-- Whether 64 bits hold the integer with its sign. -/
def isSigned64 (n : Int) : Bool := -(signedBound : Int) ≤ n && n < signedBound

/-- The integer, if 64 bits hold it with its sign. -/
def signed64? (n : Int) : Option Int := if isSigned64 n then some n else none

end HybridRetrieval
