import HybridRetrieval.Error
import HybridRetrieval.Filter.Value
/-!
# Filters and predicates

A filter asks for an entry of the metadata to equal a value.  A list of filters becomes a predicate
over a column: its text has a fixed term for each filter, and the keys and values are bound as
parameters, so nothing that a caller writes becomes part of the text.
-/

namespace HybridRetrieval

open Json

/-- Metadata must map the key to the value. -/
@[ext]
structure Filter where
  key : String
  value : FilterValue
deriving DecidableEq, Repr

namespace Filter

def decoder : Decoder Filter :=
  (Record.pure Filter.mk
    |>.required "key" Decoder.string
    |>.required "value" FilterValue.decoder).decoder

/-- A conjunction of filters, written as a record of one field. -/
def listDecoder : Decoder (List Filter) :=
  (Record.pure id |>.required "filters" (Decoder.list decoder)).decoder

/-- Reads a filter written as a key, an equals sign and a value without quotes.  The first equals
sign ends the key, which must not be empty. -/
def parse? (raw : String) : Option Filter :=
  let key := raw.toList.takeWhile (· ≠ '=')
  match raw.toList.drop key.length with
  | _ :: value =>
    if key.isEmpty then none
    else some ⟨String.ofList key, .parseLoose (String.ofList value)⟩
  | [] => none

end Filter

/-- A value in the database. -/
inductive SqlValue where
  | null
  | integer (value : Int64)
  | real (value : Double)
  | text (value : String)
  | blob (value : List UInt8)
deriving DecidableEq, Repr

/-- The value that is bound for a filter value: truth values are numbers. -/
def FilterValue.toSql : FilterValue → SqlValue
  | bool b => .integer (if b then 1 else 0)
  | integer i => .integer i
  | float x => .real x
  | text s => .text s

/-- Whether a path can select the key: it is not empty and has no double quote. -/
def isSupportedKey (key : String) : Bool := !key.isEmpty && !key.toList.contains '"'

/-- The path that selects an entry; the key is quoted, so dots and blanks in it are literal. -/
def keyPath (key : String) : String := "$.\"" ++ key ++ "\""

/-- A condition over the metadata of a row. -/
structure Predicate where
  clause : String
  params : List SqlValue
deriving DecidableEq, Repr

namespace Predicate

def isEmpty (p : Predicate) : Bool := p.clause.isEmpty

/-- The term that a filter adds. -/
def term (column : String) : String := " AND json_extract(" ++ column ++ ", ?) = ?"

/-- The first key that no path can select is an error. -/
def checkKeys (filters : List Filter) : Except Error Unit :=
  match filters.find? fun f => !isSupportedKey f.key with
  | some f => .error (.unsupportedKey f.key)
  | none => .ok ()

/-- The predicate for filters over a column. -/
def render (filters : List Filter) (column : String) : Except Error Predicate := do
  checkKeys filters
  return ⟨String.join (filters.map fun _ => term column),
    filters.flatMap fun f => [.text (keyPath f.key), f.value.toSql]⟩

end Predicate

end HybridRetrieval
