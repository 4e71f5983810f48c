import HybridRetrieval.Database.Cell
import HybridRetrieval.Filter.Basic
import HybridRetrieval.Filter.Label
/-!
# Evaluating filters

A filter holds of a row if the metadata of the row is an object, its first member with the filter's
key is neither null nor missing, and that member equals the value: truth values count as one and
zero, numbers are compared by their exact values, texts by their characters, and an array or object
counts as its text.  Metadata that is no JSON makes the evaluation fail.
-/

namespace HybridRetrieval

open Json

/-- How deep metadata may be nested to be searched. -/
def maxSearchDepth : Nat := 1000

mutual

/-- The depth of nesting of a document. -/
def Json.Document.depth : Document → Nat
  | .array items _ => depthOfItems items + 1
  | .object members _ => depthOfMembers members + 1
  | _ => 0

/-- The largest depth among items. -/
def Json.Document.depthOfItems : List Document → Nat
  | [] => 0
  | item :: rest => max item.depth (depthOfItems rest)

/-- The largest depth among the values of members. -/
def Json.Document.depthOfMembers : List (List Char × Document) → Nat
  | [] => 0
  | (_, value) :: rest => max value.depth (depthOfMembers rest)

end

/-- The document that fills a text up to its first NUL; none if it is malformed. -/
def searchable? (cs : List Char) : Option Document :=
  match Document.read (cs.takeWhile (· ≠ '\x00')) with
  | (d, some rest) =>
    if d.skip.toBool && (skipBlanks rest).isEmpty && d.depth ≤ maxSearchDepth then some d else none
  | (_, none) => none

/-- What the metadata of a row offers to filters. -/
inductive SearchedMetadata where
  /-- It is no JSON. -/
  | malformed
  /-- It is JSON in a binary form, which no filter matches. -/
  | binary
  | document (d : Document)

/-- The length of the payload that the head of a binary form announces, and of the head. -/
def binaryPayload? (head : Nat) (rest : List UInt8) : Option (Nat × Nat) :=
  let big (count : Nat) : Option (Nat × Nat) :=
    if rest.length < count then none
    else some ((rest.take count).foldl (fun n b => 256 * n + b.toNat) 0, count + 1)
  if head < 12 then some (head, 1)
  else if head = 12 then big 1
  else if head = 13 then big 2
  else if head = 14 then big 4
  else if rest.take 4 = [0, 0, 0, 0] then big 8
  else none

/-- Whether bytes have the outer form of binary JSON. -/
def isBinaryJson (bytes : List UInt8) : Bool :=
  match bytes with
  | [] => false
  | b :: rest =>
    let kind := b.toNat % 16
    match binaryPayload? (b.toNat / 16) rest with
    | some (size, head) =>
      kind ≤ 12 && size + head == bytes.length && (2 < kind || size == 0)
    | none => false

/-- Bytes as text; bytes that are no text are taken one by one. -/
def textOfBytes (bytes : List UInt8) : List Char :=
  match String.fromUTF8? ⟨bytes.toArray⟩ with
  | some s => s.toList
  | none => bytes.map fun b => Char.ofNat b.toNat

/-- What a cell offers to filters. -/
def Cell.searched : Cell → SearchedMetadata
  | text s =>
    match searchable? s.toList with
    | some d => .document d
    | none => .malformed
  | blob bytes =>
    if isBinaryJson bytes then .binary
    else
      match searchable? (textOfBytes bytes) with
      | some d => .document d
      | none => .malformed

/-- A number as the database compares it. -/
inductive ExactNumber where
  | integer (value : Int)
  | real (value : Double)
deriving DecidableEq, Repr

/-- Equality of numbers by their exact values. -/
def ExactNumber.equals : ExactNumber → ExactNumber → Bool
  | integer a, integer b => a == b
  | integer a, real x | real x, integer a => x.toRat? == some (a : Rat)
  | real x, real y => x.numericEq y

/-- The number of a spelling: an integer if it has the form of one and 64 bits hold it with its
sign, else the nearest floating-point number.  The reader of the database does not round correctly
in all cases: for some spellings, `0.11657` among them, it takes a neighbour of this number. -/
def ExactNumber.ofSpelling (cs : List Char) : ExactNumber :=
  match (readInt? cs).bind signed64? with
  | some n => integer n
  | none => real (((Numeral.read? cs).map Numeral.toDouble).getD ⟨0⟩)

/-- The number that a value of the database is, if it is one. -/
def SqlValue.exact? : SqlValue → Option ExactNumber
  | integer i => some (.integer i.toInt)
  | real x => some (.real x)
  | _ => none

/-- The text that a value of the database is, if it is one. -/
def SqlValue.text? : SqlValue → Option String
  | text s => some s
  | _ => none

/-- Whether a member equals a value. -/
def Json.Document.equalsValue (d : Document) (value : SqlValue) : Bool :=
  match d with
  | .bool b => value.exact?.any (ExactNumber.equals (.integer (if b then 1 else 0)))
  | .number spelling => value.exact?.any (ExactNumber.equals (.ofSpelling spelling))
  | .string spelling => value.text?.any fun s => Text.unescape? spelling == some s.toList
  | .array _ _ | .object _ _ => value.text?.any fun s => d.render == s.toList
  | _ => false

/-- The first member that a key means. -/
def Json.Document.memberOf? (d : Document) (key : List Char) : Option Document :=
  match d with
  | .object members _ =>
    (members.find? fun member => Label.matchesKey key member.1).map (·.2)
  | _ => none

/-- Whether a document satisfies a filter. -/
def Filter.holdsOf (f : Filter) (d : Document) : Bool :=
  (d.memberOf? f.key.toList).any (·.equalsValue f.value.toSql)

/-- Whether a row with the given metadata satisfies a filter.  A NUL in the key ends the path too
early. -/
def Filter.holds (f : Filter) (metadata : Cell) : Except Error Bool :=
  match metadata.searched with
  | .malformed => .error .storage
  | .binary => if f.key.toList.contains '\x00' then .error .storage else .ok false
  | .document d =>
    if f.key.toList.contains '\x00' then .error .storage else .ok (f.holdsOf d)

/-- Whether a row satisfies all filters; the first that fails decides. -/
def Filter.allHold (filters : List Filter) (metadata : Cell) : Except Error Bool :=
  match filters with
  | [] => .ok true
  | f :: rest => do if ← f.holds metadata then allHold rest metadata else return false

end HybridRetrieval
