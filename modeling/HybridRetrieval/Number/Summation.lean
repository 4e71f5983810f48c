import HybridRetrieval.Number.Double
/-!
# Compensated sums

The errors that rounding makes in a long sum are kept beside the sum and added to it once, at the
end, so that the whole sum loses little more than a single addition does.
-/

namespace HybridRetrieval

/-- A running sum, and what its additions have lost so far. -/
structure CompensatedSum where
  total : Double
  lost : Double
deriving DecidableEq, Repr

namespace CompensatedSum

/-- The sum of no numbers. -/
def zero : CompensatedSum := ⟨.zero, .zero⟩

/-- Adds a number.  What the addition loses is found by taking the larger operand from the new total
first. -/
def add (s : CompensatedSum) (x : Double) : CompensatedSum :=
  let total := s.total + x
  let larger := if x.magnitude < s.total.magnitude then s.total else x
  let smaller := if x.magnitude < s.total.magnitude then x else s.total
  ⟨total, s.lost + ((larger - total) + smaller)⟩

/-- The sum with what was lost, unless that has grown beyond all numbers. -/
def value (s : CompensatedSum) : Double := if s.lost.isFinite then s.total + s.lost else s.total

end CompensatedSum

/-- The sum of numbers, from first to last. -/
def Double.sum (xs : List Double) : Double := (xs.foldl CompensatedSum.add .zero).value

end HybridRetrieval
