import HybridRetrieval.Text.Hex
/-!
# Comparing a key with a label

A filter's key selects the member whose label spells it.  A key or a label without a backslash
spells itself; in one with a backslash escapes are read, the single-quoted, hexadecimal and
line-continuing ones of relaxed JSON too.  Both are compared code by code up to the first code zero.
-/

namespace HybridRetrieval.Label

/-- The bytes of a text as numbers. -/
def bytes (cs : List Char) : List Nat := (cs.flatMap String.utf8EncodeChar).map (·.toNat)

/-- The code that an unreadable escape stands for. -/
def invalidCode : Nat := 0x99999

/-- The value of a byte as a hexadecimal digit, by its low bits. -/
def digitValue (b : Nat) : Nat := (b + 9 * (b / 64 % 2)) % 16

/-- The value of digits. -/
def digitsValue (bs : List Nat) : Nat := bs.foldl (fun n b => 16 * n + digitValue b) 0

/-- Whether a byte continues a character. -/
def isContinuation (b : Nat) : Bool := b / 64 == 2

/-- The bits of the code that the first byte of a character holds. -/
def leadBits (b : Nat) : Nat :=
  if b < 0xe0 then b % 32 else if b < 0xf0 then b % 16 else if b < 0xf8 then b % 8 else b % 4

/-- Reads one character: a code and the bytes after it. -/
def readCode (b : Nat) (rest : List Nat) : Nat × List Nat :=
  if b < 0xc0 then (b, rest)
  else
    let more := (rest.take 3).takeWhile isContinuation
    (more.foldl (fun n c => 64 * n + c % 64) (leadBits b), rest.drop more.length)

/-- Drops line breaks that are escaped, each with its backslash. -/
def skipContinuations : List Nat → List Nat
  | 0x5c :: 0x0d :: 0x0a :: rest => skipContinuations rest
  | 0x5c :: 0x0d :: rest => skipContinuations rest
  | 0x5c :: 0x0a :: rest => skipContinuations rest
  | 0x5c :: 0xe2 :: 0x80 :: 0xa8 :: rest => skipContinuations rest
  | 0x5c :: 0xe2 :: 0x80 :: 0xa9 :: rest => skipContinuations rest
  | bs => bs

/-- The code of a one-letter escape. -/
def shortCode? (b : Nat) : Option Nat :=
  if b = 0x62 then some 8
  else if b = 0x66 then some 12
  else if b = 0x6e then some 10
  else if b = 0x72 then some 13
  else if b = 0x74 then some 9
  else if b = 0x76 then some 11
  else if b = 0x30 then some 0
  else if b = 0x27 ∨ b = 0x22 ∨ b = 0x2f ∨ b = 0x5c then some b
  else none

/-- Whether a 16-bit unit opens a surrogate pair. -/
def isLead (unit : Nat) : Bool := unit / 0x400 == 0x36

/-- Whether a 16-bit unit closes a surrogate pair. -/
def isTrail (unit : Nat) : Bool := unit / 0x400 == 0x37

/-- Reads an escape from behind its backslash. -/
def readEscape : List Nat → Nat × List Nat
  | [] => (invalidCode, [])
  | 0x75 :: a :: b :: c :: d :: rest =>
    let unit := digitsValue [a, b, c, d]
    match rest with
    | 0x5c :: 0x75 :: e :: f :: g :: h :: more =>
      let trail := digitsValue [e, f, g, h]
      if isLead unit && isTrail trail then
        (unit % 0x400 * 0x400 + trail % 0x400 + 0x10000, more)
      else (unit, rest)
    | _ => (unit, rest)
  | 0x75 :: _ => (invalidCode, [])
  | 0x78 :: a :: b :: rest => (digitsValue [a, b], rest)
  | 0x78 :: _ => (invalidCode, [])
  | b :: rest =>
    match shortCode? b with
    | some code => (code, rest)
    | none => (invalidCode, if b = 0xe2 ∨ b = 0x0d ∨ b = 0x0a then [] else rest)

/-- The codes of a label with escapes, up to its end or an escaped line break at its end. -/
def escapedCodes : (fuel : Nat) → List Nat → List Nat
  | 0, _ => []
  | fuel + 1, bs =>
    match skipContinuations bs with
    | [] => []
    | 0x5c :: rest =>
      let found := readEscape rest
      found.1 :: escapedCodes fuel found.2
    | b :: rest =>
      let found := readCode b rest
      found.1 :: escapedCodes fuel found.2

/-- Whether a text has an escape. -/
def hasEscape (cs : List Char) : Bool := cs.contains '\\'

/-- The codes of a key or label. -/
def codes (cs : List Char) : List Nat :=
  if hasEscape cs then escapedCodes (bytes cs).length (bytes cs) else cs.map Char.toNat

/-- Whether a key and the spelling of a label mean the same member. -/
def matchesKey (key spelling : List Char) : Bool :=
  if hasEscape key || hasEscape spelling then
    (codes key).takeWhile (· ≠ 0) == (codes spelling).takeWhile (· ≠ 0)
  else key == spelling

end HybridRetrieval.Label
