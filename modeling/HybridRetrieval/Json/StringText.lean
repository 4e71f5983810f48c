import HybridRetrieval.Text.Hex
/-!
# The text of JSON strings

Between its quotes a string holds its characters, with quotes, backslashes and control characters
escaped.  Characters beyond 16 bits may be spelled as a pair of surrogate escapes; a surrogate
without its partner spells no character.
-/

namespace HybridRetrieval.Json.Text

/-- The escape of one character, or the character itself. -/
def escapeChar (c : Char) : List Char :=
  if c = '"' then ['\\', '"']
  else if c = '\\' then ['\\', '\\']
  else if c = '\x08' then ['\\', 'b']
  else if c = '\x0c' then ['\\', 'f']
  else if c = '\n' then ['\\', 'n']
  else if c = '\r' then ['\\', 'r']
  else if c = '\t' then ['\\', 't']
  else if c.toNat < 0x20 then ['\\', 'u', '0', '0'] ++ Hex.fixed 2 c.toNat
  else [c]

/-- The text of a string between its quotes. -/
def escape (cs : List Char) : List Char := cs.flatMap escapeChar

/-- The character that a one-letter escape stands for. -/
def shortEscape? (c : Char) : Option Char :=
  if c = '"' ∨ c = '\\' ∨ c = '/' then some c
  else if c = 'b' then some '\x08'
  else if c = 'f' then some '\x0c'
  else if c = 'n' then some '\n'
  else if c = 'r' then some '\r'
  else if c = 't' then some '\t'
  else none

/-- Whether a 16-bit unit opens a surrogate pair. -/
def isLeadSurrogate (unit : Nat) : Bool := 0xd800 ≤ unit && unit < 0xdc00

/-- Whether a 16-bit unit closes a surrogate pair. -/
def isTrailSurrogate (unit : Nat) : Bool := 0xdc00 ≤ unit && unit < 0xe000

/-- The code point of a surrogate pair. -/
def pairCode (lead trail : Nat) : Nat := 0x10000 + (lead - 0xd800) * 0x400 + (trail - 0xdc00)

/-- A character or a 16-bit unit of a string's text. -/
inductive Piece where
  | char (c : Char)
  | unit (code : Nat)
deriving DecidableEq, Repr

/-- Splits the text between quotes into characters and the units that numeric escapes spell; none
if an escape is malformed. -/
def pieces? : List Char → Option (List Piece)
  | [] => some []
  | '\\' :: 'u' :: a :: b :: c :: d :: rest =>
    match Hex.toNat? [a, b, c, d] with
    | some code => (pieces? rest).map (.unit code :: ·)
    | none => none
  | '\\' :: c :: rest =>
    match shortEscape? c with
    | some c => (pieces? rest).map (.char c :: ·)
    | none => none
  | c :: rest => if c = '\\' then none else (pieces? rest).map (.char c :: ·)

/-- Joins surrogate pairs; none if a surrogate has no partner. -/
def joinPieces? : List Piece → Option (List Char)
  | [] => some []
  | .char c :: rest => (joinPieces? rest).map (c :: ·)
  | .unit code :: rest =>
    if isTrailSurrogate code then none
    else if isLeadSurrogate code then
      match rest with
      | .unit trail :: rest =>
        if isTrailSurrogate trail then
          (joinPieces? rest).map (Char.ofNat (pairCode code trail) :: ·)
        else none
      | _ => none
    else (joinPieces? rest).map (Char.ofNat code :: ·)

/-- The characters that the text between quotes spells; none if an escape is malformed or a
surrogate has no partner. -/
def unescape? (cs : List Char) : Option (List Char) := (pieces? cs).bind joinPieces?

/-- Whether the text has a surrogate without its partner that no continuation can supply. -/
def hasLoneSurrogate (cs : List Char) : Bool :=
  (unescape? cs).isNone && (unescape? (cs ++ ['\\', 'u', 'd', 'c', '0', '0'])).isNone

end HybridRetrieval.Json.Text
