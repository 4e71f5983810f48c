import HybridRetrieval.Json.Decoder
import HybridRetrieval.Number.Decimal
/-!
# Filter values

The value that a filter compares with: a truth value, a 64-bit integer, a floating-point number or
a text.
-/

namespace HybridRetrieval

open Json

/-- The value side of a filter. -/
inductive FilterValue where
  | bool (value : Bool)
  | integer (value : Int64)
  | float (value : Double)
  | text (value : String)
deriving DecidableEq, Repr

namespace FilterValue

/-- The integer as a 64-bit one, if it is. -/
def int64? (n : Int) : Option Int64 :=
  (signed64? n).map Int64.ofInt

/-- The value of a JSON number: an integer if 64 bits hold it with its sign, else floating point. -/
def ofNumber (n : Number) : FilterValue :=
  match n with
  | .integer v _ =>
    match int64? v with
    | some i => integer i
    | none => float (Double.ofInt v)
  | .real x _ => float x

/-- The value of a JSON scalar. -/
def ofJson? : Json → Option FilterValue
  | .bool b => some (bool b)
  | .number n => some (ofNumber n)
  | .string s => some (text s)
  | _ => none

/-- Any value is read; then it must be a scalar. -/
def decoder : Decoder FilterValue := fun depth d => do
  match ofJson? (← Decoder.any depth d) with
  | some v => .ok v
  | none => .error wrongValue

/-- Reads a value that is given without quotes: an integer, a floating-point number or a truth
value if it has the form of one, else a text. -/
def parseLoose (raw : String) : FilterValue :=
  match (readInt? raw.toList).bind int64? with
  | some i => integer i
  | none =>
    match Numeral.read? raw.toList with
    | some x => float x.toDouble
    | none => if raw = "true" then bool true else if raw = "false" then bool false else text raw

end FilterValue

end HybridRetrieval
