import HybridRetrieval.Json.Reader
/-!
# Decoding documents

A decoder takes a document apart in the order of its text, so that of several faults the first one
is reported.  Arrays and objects that are read may be nested only so deep; what is skipped may be
nested without bound.  A record is read from an object, in any order and with unknown members
skipped, or from an array of its fields.
-/

namespace HybridRetrieval.Json

/-- Reads a document, given how many levels of arrays and objects may still be entered. -/
abbrev Decoder (α : Type) := Nat → Document → Except Fault α

/-- How deep arrays and objects may be nested. -/
def maxDepth : Nat := 127

/-- A well-formed value of the wrong kind. -/
def wrongValue : Fault := .unfit .wrongValue

/-- The fault of finding a value of another kind: an array or an object is refused at once, any
other value is read first. -/
def Document.refuse : Document → Fault
  | .null | .bool _ | .array _ _ | .object _ _ => wrongValue
  | .number spelling => if (Number.ofText? spelling).isSome then wrongValue else .malformed
  | .string spelling => if (Text.unescape? spelling).isSome then wrongValue else .malformed
  | .absent => .truncated
  | .badString read _ | .badValue read _ => read

/-- Whether an array or an object that is read to its end is sound. -/
def Ending.check : Ending → Except Fault Unit
  | .closed => .ok ()
  | .stopped fault | .afterComma fault => .error fault

/-- Whether an array of which no more is wanted ends here. -/
def Ending.checkLast : Ending → Except Fault Unit
  | .closed => .ok ()
  | .stopped fault => .error fault
  | .afterComma _ => .error .malformed

mutual

/-- The fault, if any, that is found by skipping a value. -/
def Document.skip : Document → Except Fault Unit
  | .null | .bool _ | .number _ | .string _ => .ok ()
  | .array items ending => do
    skipItems items
    ending.check
  | .object members ending => do
    skipMembers members
    ending.check
  | .absent => .error .truncated
  | .badString _ skip | .badValue _ skip => .error skip

/-- Skips the items of an array. -/
def Document.skipItems : List Document → Except Fault Unit
  | [] => .ok ()
  | item :: rest => do
    item.skip
    skipItems rest

/-- Skips the members of an object. -/
def Document.skipMembers : List (List Char × Document) → Except Fault Unit
  | [] => .ok ()
  | (_, value) :: rest => do
    value.skip
    skipMembers rest

end

namespace Decoder

/-- The characters of a string or a key. -/
def spelled (spelling : List Char) : Except Fault String :=
  match Text.unescape? spelling with
  | some cs => .ok (String.ofList cs)
  | none => .error .malformed

def string : Decoder String := fun _ d =>
  match d with
  | .string spelling => spelled spelling
  | d => .error d.refuse

def bool : Decoder Bool := fun _ d =>
  match d with
  | .bool b => .ok b
  | d => .error d.refuse

def number : Decoder Number := fun _ d =>
  match d with
  | .number spelling =>
    match Number.ofText? spelling with
    | some n => .ok n
    | none => .error .malformed
  | d => .error d.refuse

/-- A whole number that is not negative. -/
def nat : Decoder Nat := fun depth d => do
  match ← number depth d with
  | .integer n _ => if 0 ≤ n then .ok n.toNat else .error wrongValue
  | .real _ _ => .error wrongValue

/-- A 32-bit number. -/
def single : Decoder Single := fun depth d => return (← number depth d).toSingle

/-- Null for none. -/
def option {α : Type} (decoder : Decoder α) : Decoder (Option α) := fun depth d =>
  match d with
  | .null => .ok none
  | d => return some (← decoder depth d)

/-- Decodes every item. -/
def items {α : Type} (decoder : Decoder α) (depth : Nat) : List Document → Except Fault (List α)
  | [] => .ok []
  | item :: rest => do
    let x ← decoder depth item
    let xs ← items decoder depth rest
    return x :: xs

def list {α : Type} (decoder : Decoder α) : Decoder (List α) := fun depth d =>
  match depth, d with
  | 0, .array _ _ => .error .malformed
  | depth + 1, .array docs ending => do
    let xs ← items decoder depth docs
    ending.check
    return xs
  | _, d => .error d.refuse

mutual

/-- Any value, its members in the order of the text. -/
def any (depth : Nat) : Document → Except Fault Json
  | .null => .ok .null
  | .bool b => .ok (.bool b)
  | .number spelling =>
    match Number.ofText? spelling with
    | some n => .ok (.number n)
    | none => .error .malformed
  | .string spelling => return .string (← spelled spelling)
  | .array docs ending =>
    if depth = 0 then .error .malformed
    else do
      let values ← anyItems (depth - 1) docs
      ending.check
      return .array values
  | .object docs ending =>
    if depth = 0 then .error .malformed
    else do
      let members ← anyMembers (depth - 1) docs
      ending.check
      return .object members
  | .absent => .error .truncated
  | .badString read _ | .badValue read _ => .error read

/-- Any items. -/
def anyItems (depth : Nat) : List Document → Except Fault (List Json)
  | [] => .ok []
  | item :: rest => do
    let value ← any depth item
    let values ← anyItems depth rest
    return value :: values

/-- Any members. -/
def anyMembers (depth : Nat) :
    List (List Char × Document) → Except Fault (List (String × Json))
  | [] => .ok []
  | (key, item) :: rest => do
    let key ← spelled key
    let value ← any depth item
    let members ← anyMembers depth rest
    return (key, value) :: members

end

/-- Any value with its objects in order. -/
def json : Decoder Json := fun depth d => return (← any depth d).normalize

/-- Looks a name up among named alternatives. -/
def variantOf {α : Type} (variants : List (String × α)) (name : String) : Except Fault α :=
  match variants.lookup name with
  | some x => .ok x
  | none => .error (.unfit (.unknownVariant name (variants.map (·.1))))

/-- One of several names, given as a string or as an object that maps the name to null. -/
def variant {α : Type} (variants : List (String × α)) : Decoder α := fun depth d =>
  match d with
  | .string spelling => do variantOf variants (← spelled spelling)
  | .object members ending =>
    if depth = 0 then .error .malformed
    else match members with
      | [] => .error (match ending with | .stopped fault => fault | _ => .malformed)
      | (key, value) :: more => do
        let x ← variantOf variants (← spelled key)
        match value with
        | .null =>
          if more.isEmpty then ending.checkLast else .error .malformed
          return x
        | value => .error value.refuse
  | .absent => .error .truncated
  | .badString read _ => .error read
  | _ => .error .malformed

end Decoder

/-- What a record takes for a field that is left out: nothing, a value if it is left out of an
object, or a value in any case. -/
inductive Absence (α : Type) where
  | required
  | optional (value : α)
  | defaulted (value : α)

/-- How a record is read: its fields with their decoders, and the record from the values of its
fields, which are named in an object and stand in order in an array. -/
structure Record (α : Type) where
  fields : List (String × Decoder Unit)
  ofMembers : Nat → List (String × Document) → Except Fault α
  ofItems : Nat → Ending → List Document → Except Fault (α × List Document)

namespace Record

variable {α β : Type}

/-- A record with no field. -/
def pure (x : α) : Record α := ⟨[], fun _ _ => .ok x, fun _ _ docs => .ok (x, docs)⟩

/-- A record of one field. -/
def field (name : String) (decoder : Decoder α) (absence : Absence α) : Record α where
  fields := [(name, fun depth d => (decoder depth d).map fun _ => ())]
  ofMembers depth members :=
    match members.lookup name, absence with
    | some d, _ => decoder depth d
    | none, .required => .error (.unfit (.missingField name))
    | none, .optional x | none, .defaulted x => .ok x
  ofItems depth ending docs :=
    match docs, ending, absence with
    | d :: rest, _, _ => (decoder depth d).map (·, rest)
    | [], .closed, .defaulted x => .ok (x, [])
    | [], .closed, _ => .error wrongValue
    | [], .stopped fault, _ | [], .afterComma fault, _ => .error fault

/-- The fields of two records after each other. -/
def seq (f : Record (α → β)) (x : Record α) : Record β where
  fields := f.fields ++ x.fields
  ofMembers depth members := do
    let g ← f.ofMembers depth members
    let a ← x.ofMembers depth members
    return g a
  ofItems depth ending docs := do
    let (g, docs) ← f.ofItems depth ending docs
    let (a, docs) ← x.ofItems depth ending docs
    return (g a, docs)

/-- A field that must be present. -/
def required (f : Record (α → β)) (name : String) (decoder : Decoder α) : Record β :=
  f.seq (field name decoder .required)

/-- A field that may be null or left out of an object. -/
def optional (f : Record (Option α → β)) (name : String) (decoder : Decoder α) : Record β :=
  f.seq (field name decoder.option (.optional none))

/-- A field that may be left out and then has a value of its own. -/
def defaulted (f : Record (α → β)) (name : String) (decoder : Decoder α) (value : α) : Record β :=
  f.seq (field name decoder (.defaulted value))

/-- Goes through the members of an object: a field must not come twice and its value must fit, the
values of unknown members are skipped.  The result names the members. -/
def nameMembers (fields : List (String × Decoder Unit)) (depth : Nat) (seen : List String) :
    List (List Char × Document) → Except Fault (List (String × Document))
  | [] => .ok []
  | (spelling, value) :: rest => do
    let key ← Decoder.spelled spelling
    match fields.lookup key with
    | none =>
      value.skip
      nameMembers fields depth seen rest
    | some decoder =>
      if seen.contains key then .error (.unfit (.duplicateField key))
      else do
        decoder depth value
        let members ← nameMembers fields depth (key :: seen) rest
        return (key, value) :: members

/-- The decoder of a record. -/
def decoder (r : Record α) : Decoder α := fun depth d =>
  match depth, d with
  | 0, .array _ _ | 0, .object _ _ => .error .malformed
  | depth + 1, .array docs ending => do
    let (x, rest) ← r.ofItems depth ending docs
    if rest.isEmpty then ending.checkLast else .error .malformed
    return x
  | depth + 1, .object members ending => do
    let members ← nameMembers r.fields depth [] members
    ending.check
    r.ofMembers depth members
  | _, d => .error d.refuse

end Record

/-- Decodes a text that holds one value and blanks. -/
def decodeText {α : Type} (decoder : Decoder α) (text : List Char) : Except Fault α :=
  match Document.read text with
  | (d, rest) => do
    let x ← decoder maxDepth d
    match rest with
    | some rest => if (skipBlanks rest).isEmpty then .ok x else .error .malformed
    | none => .error .malformed

/-- What is wrong with a value that was read before: it cannot be damaged, only not fit. -/
def Fault.ofValue : Fault → Fault
  | .unfit why => .unfit why
  | _ => wrongValue

/-- Decodes a value. -/
def decodeValue {α : Type} (decoder : Decoder α) (value : Json) : Except Fault α :=
  (decoder maxDepth (.ofJson value)).mapError Fault.ofValue

end HybridRetrieval.Json
