import HybridRetrieval.Number.Decimal
/-!
# Fewest digits, and fixed places

`Decimal.shortest` finds the decimal with the fewest digits among those that round to a given
number.  The decimals with exponent `k` form a grid; the numbers that round to `m * 2 ^ e` form an
interval around it, ends included iff `m` is even.  Going down from a grid that is too coarse, the
first one with a point in the interval gives the fewest digits, and of two such points the nearer is
taken.  `Decimal.fixedPlaces` rounds the exact value to a given number of places instead.
-/

namespace HybridRetrieval

/-- The decimals that read as one number, in a unit so small that the value and both ends are
integers: those from `low` to `high`, ends included iff `closed`. -/
structure RoundingInterval where
  low : Nat
  value : Nat
  high : Nat
  closed : Bool
deriving Repr

namespace RoundingInterval

/-- Whether a point lies in the interval. -/
def contains (i : RoundingInterval) (x : Nat) : Bool :=
  (i.low < x && x < i.high) || (i.closed && (x == i.low || x == i.high))

/-- The multiple of `step` in the interval that is nearest to the value, as a count of steps; a tie
goes to the even count. -/
def gridPoint? (i : RoundingInterval) (step : Nat) : Option Nat :=
  let below := i.value / step
  match i.contains (below * step), i.contains ((below + 1) * step) with
  | false, false => none
  | true, false => some below
  | false, true => some (below + 1)
  | true, true => some (roundDiv i.value step)

/-- Both ends and the value multiplied by a factor. -/
def scale (i : RoundingInterval) (factor : Nat) : RoundingInterval :=
  ⟨i.low * factor, i.value * factor, i.high * factor, i.closed⟩

end RoundingInterval

/-- The interval of `m * 2 ^ e` in quarters of its last bit.  Below a power of two the neighbours
are twice as dense, except at the bottom of the format. -/
def BinaryFormat.interval (f : BinaryFormat) (s : Scaled) : RoundingInterval :=
  let m := s.significand
  let low := if m = f.binade ∧ f.leastExponent < s.exponent then 4 * m - 1 else 4 * m - 2
  ⟨low, 4 * m, 4 * m + 2, m % 2 = 0⟩

namespace Decimal

/-- The grid point with the largest exponent not above `k`, looking at `fuel + 1` grids.  The unit
of the interval is `2 ^ unit`. -/
def searchGrids (i : RoundingInterval) (unit : Int) : Nat → Int → Decimal
  | 0, k => ⟨i.value, k⟩
  | fuel + 1, k =>
    let factor := Nat.pow 2 unit.toNat * Nat.pow 10 (-k).toNat
    let step := Nat.pow 2 (-unit).toNat * Nat.pow 10 k.toNat
    match (i.scale factor).gridPoint? step with
    | some point => ⟨point, k⟩
    | none => searchGrids i unit fuel (k - 1)

/-- An exponent `k` with `10 ^ k` above the ratio. -/
def topExponent (num den : Nat) : Int :=
  if den ≤ num then (digitChars (num / den)).length else 1 - ((digitChars (den / num)).length : Int)

/-- Twenty digits tell any two numbers of these formats apart. -/
def searchDepth : Nat := 20

/-- The shortest decimal that rounds to the magnitude of a finite pattern. -/
def shortest (f : BinaryFormat) (bits : Nat) : Decimal :=
  let s := f.decode bits
  if s.significand = 0 then ⟨0, 0⟩
  else
    let ratio := scaleRatio 2 s.significand 1 (-s.exponent)
    searchGrids (f.interval s) (s.exponent - 2) searchDepth (topExponent ratio.1 ratio.2)

/-- Writes a whole number of units of the last place, with a point before the last `places`. -/
def placesText (places count : Nat) : String :=
  let digits := digitChars count
  let padded := List.replicate (places + 1 - digits.length) '0' ++ digits
  let whole := padded.take (padded.length - places)
  let fraction := padded.drop (padded.length - places)
  String.ofList (whole ++ '.' :: fraction)

/-- The exact value with a fixed number of places, a half going to the even neighbour. -/
def fixedPlaces (f : BinaryFormat) (places bits : Nat) : String :=
  let sign := if f.isNegative bits then "-" else ""
  if f.isNaN bits then "NaN"
  else if f.isFinite bits then
    let s := f.decode bits
    let ratio := scaleRatio 2 s.significand 1 (-s.exponent)
    sign ++ placesText places (roundDiv (ratio.1 * Nat.pow 10 places) ratio.2)
  else sign ++ "inf"

end Decimal

end HybridRetrieval
