import HybridRetrieval.Number.Double
/-!
# Decimal numbers

A `Decimal` is an integer times a power of ten.  `Decimal.round` goes to the nearest number of a
binary format, and `Numeral.read?` reads the usual spelling: a sign, digits with at most one point,
an exponent, or the words for infinity and for what is not a number.
-/

namespace HybridRetrieval

/-- The number `digits * 10 ^ exponent`. -/
structure Decimal where
  digits : Nat
  exponent : Int
deriving DecidableEq, Repr

namespace Decimal

/-- The decimal digits of a number, most significant first. -/
def digitChars (n : Nat) : List Char := Nat.toDigits 10 n

/-- The number whose decimal digits are given, most significant first. -/
def ofDigitChars (cs : List Char) : Nat :=
  cs.foldl (fun n c => 10 * n + (c.toNat - '0'.toNat)) 0

/-- Beyond this many places before or after the point every format here overflows or vanishes. -/
def placesLimit : Int := 400

/-- The pattern of the number of the format that is nearest to the decimal. -/
def round (d : Decimal) (f : BinaryFormat) : Nat :=
  let places := d.exponent + (digitChars d.digits).length
  if d.digits = 0 ∨ places < -placesLimit then 0
  else if placesLimit < places then f.infinity
  else
    let ratio := scaleRatio 10 d.digits 1 (-d.exponent)
    f.ofRatio ratio.1 ratio.2

/-- The 64-bit number nearest to the decimal. -/
def toDouble (d : Decimal) : Double := ⟨.ofNat (d.round .double)⟩

end Decimal

/-- The magnitude of a written number. -/
inductive Magnitude where
  | finite (value : Decimal)
  | infinity
  | nan
deriving DecidableEq, Repr

/-- A written number: a sign and a magnitude. -/
structure Numeral where
  negative : Bool
  magnitude : Magnitude
deriving DecidableEq, Repr

namespace Numeral

/-- The pattern of the number of the format that is nearest to the numeral. -/
def round (x : Numeral) (f : BinaryFormat) : Nat :=
  match x.magnitude with
  | .finite value => f.withSign x.negative (value.round f)
  | .infinity => f.withSign x.negative f.infinity
  | .nan => f.infinity + f.binade / 2

def toSingle (x : Numeral) : Single := ⟨.ofNat (x.round .single)⟩

def toDouble (x : Numeral) : Double := ⟨.ofNat (x.round .double)⟩

/-- Splits a sign off, a plus sign or none meaning not negative. -/
def splitSign : List Char → Bool × List Char
  | '-' :: rest => (true, rest)
  | '+' :: rest => (false, rest)
  | cs => (false, cs)

/-- Reads a signed run of at least one digit that ends the text. -/
def readExponent? (cs : List Char) : Option Int :=
  let signed := splitSign cs
  if signed.2 ≠ [] ∧ signed.2.all Char.isDigit then
    some (if signed.1 then -(Decimal.ofDigitChars signed.2 : Int)
      else Decimal.ofDigitChars signed.2)
  else none

/-- Reads digits with at most one point and at least one digit, and an exponent if any follows. -/
def readDecimal? (cs : List Char) : Option Decimal :=
  let whole := cs.takeWhile Char.isDigit
  let afterWhole := cs.dropWhile Char.isDigit
  let fraction := match afterWhole with
    | '.' :: rest => rest.takeWhile Char.isDigit
    | _ => []
  let afterFraction := match afterWhole with
    | '.' :: rest => rest.dropWhile Char.isDigit
    | rest => rest
  let exponent : Option Int := match afterFraction with
    | [] => some 0
    | e :: rest => if e = 'e' ∨ e = 'E' then readExponent? rest else none
  if whole = [] ∧ fraction = [] then none
  else exponent.map fun e => ⟨Decimal.ofDigitChars (whole ++ fraction), e - fraction.length⟩

/-- Reads the magnitude of a number; words may be in any case. -/
def readMagnitude? (cs : List Char) : Option Magnitude :=
  let lower := String.ofList (cs.map Char.toLower)
  if lower = "inf" ∨ lower = "infinity" then some .infinity
  else if lower = "nan" then some .nan
  else (readDecimal? cs).map .finite

/-- Reads a number that fills the whole text. -/
def read? (cs : List Char) : Option Numeral :=
  let signed := splitSign cs
  (readMagnitude? signed.2).map (⟨signed.1, ·⟩)

end Numeral

/-- Reads a whole number with an optional plus sign; it must fill the text. -/
def readNat? (cs : List Char) : Option Nat :=
  let digits := match cs with
    | '+' :: rest => rest
    | _ => cs
  if digits ≠ [] ∧ digits.all Char.isDigit then some (Decimal.ofDigitChars digits) else none

/-- Reads an integer with an optional sign; it must fill the text. -/
def readInt? (cs : List Char) : Option Int := Numeral.readExponent? cs

end HybridRetrieval
