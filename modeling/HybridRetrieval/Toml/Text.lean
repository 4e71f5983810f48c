import HybridRetrieval.Text.Hex
/-!
# TOML strings

A string stands between double quotes, with escapes, or between single quotes, without; three
quotes allow line breaks.  `readString?` reads any of the forms and `writeString` picks the plainest
form that can hold the text.
-/

namespace HybridRetrieval.Toml

/-- What a reading step finds, with the rest of the text. -/
abbrev Found (α : Type) := Option (α × List Char)

/-- Characters that stand for themselves in strings and comments: tabs, and all that are no
control characters. -/
def isTextChar (c : Char) : Bool := c = '\t' || (0x20 ≤ c.toNat && c.toNat ≠ 0x7f)

/-- Drops a line break, which may be preceded by a carriage return. -/
def newline? : List Char → Option (List Char)
  | '\n' :: rest => some rest
  | '\r' :: '\n' :: rest => some rest
  | _ => none

/-- The character with a code point, if there is one. -/
def charOf? (code : Nat) : Option Char :=
  if code < 0xd800 ∨ (0xdfff < code ∧ code < 0x110000) then some (Char.ofNat code) else none

/-- The character of a numeric escape with the given digits. -/
def escapeOf? (digits : List Char) : Option Char := (Hex.toNat? digits).bind charOf?

/-- The character of a one-letter escape. -/
def shortEscape? (c : Char) : Option Char :=
  if c = '"' ∨ c = '\\' then some c
  else if c = 'b' then some '\x08'
  else if c = 't' then some '\t'
  else if c = 'n' then some '\n'
  else if c = 'f' then some '\x0c'
  else if c = 'r' then some '\r'
  else none

/-- Reads an escape from behind its backslash. -/
def readEscape? : List Char → Found Char
  | 'u' :: a :: b :: c :: d :: rest => (escapeOf? [a, b, c, d]).map (·, rest)
  | 'U' :: a :: b :: c :: d :: e :: f :: g :: h :: rest =>
    (escapeOf? [a, b, c, d, e, f, g, h]).map (·, rest)
  | c :: rest => (shortEscape? c).map (·, rest)
  | [] => none

/-- Puts a character in front of what was found. -/
def Found.cons (c : Char) : Found (List Char) → Found (List Char)
  | some (cs, rest) => some (c :: cs, rest)
  | none => none

/-- Reads the rest of a string on one line between double quotes. -/
def readBasic? : (fuel : Nat) → List Char → Found (List Char)
  | 0, _ => none
  | _ + 1, [] => none
  | _ + 1, '"' :: rest => some ([], rest)
  | fuel + 1, '\\' :: rest =>
    match readEscape? rest with
    | some (c, rest) => (readBasic? fuel rest).cons c
    | none => none
  | fuel + 1, c :: rest => if isTextChar c then (readBasic? fuel rest).cons c else none

/-- Reads the rest of a string on one line between single quotes. -/
def readLiteral? : List Char → Found (List Char)
  | [] => none
  | '\'' :: rest => some ([], rest)
  | c :: rest => if isTextChar c then (readLiteral? rest).cons c else none

/-- The end of a string between triple quotes, at a run of at least three: up to two more quotes
belong to the string. -/
def closeTriple? (quote : Char) (cs : List Char) : Found (List Char) :=
  let run := (cs.takeWhile (· = quote)).length
  if run < 3 then none
  else
    let inner := min (run - 3) 2
    some (List.replicate inner quote, cs.drop (inner + 3))

/-- Blanks and line breaks dropped after a backslash at the end of a line. -/
def skipFolded (cs : List Char) : List Char :=
  cs.dropWhile fun c => c = ' ' || c = '\t' || c = '\n' || c = '\r'

/-- Reads the rest of a string between triple double quotes.  A backslash at the end of a line
drops the blanks and line breaks that follow. -/
def readTripleBasic? : (fuel : Nat) → List Char → Found (List Char)
  | 0, _ => none
  | fuel + 1, cs =>
    match closeTriple? '"' cs with
    | some found => some found
    | none =>
      match newline? cs with
      | some rest => (readTripleBasic? fuel rest).cons '\n'
      | none =>
        match cs with
        | [] => none
        | '\\' :: rest =>
          match newline? (rest.dropWhile fun c => c = ' ' || c = '\t') with
          | some rest => readTripleBasic? fuel (skipFolded rest)
          | none =>
            match readEscape? rest with
            | some (c, rest) => (readTripleBasic? fuel rest).cons c
            | none => none
        | c :: rest => if isTextChar c then (readTripleBasic? fuel rest).cons c else none

/-- Reads the rest of a string between triple single quotes. -/
def readTripleLiteral? : (fuel : Nat) → List Char → Found (List Char)
  | 0, _ => none
  | fuel + 1, cs =>
    match closeTriple? '\'' cs with
    | some found => some found
    | none =>
      match newline? cs with
      | some rest => (readTripleLiteral? fuel rest).cons '\n'
      | none =>
        match cs with
        | [] => none
        | c :: rest => if isTextChar c then (readTripleLiteral? fuel rest).cons c else none

/-- Drops a line break behind opening triple quotes. -/
def skipFirstNewline (cs : List Char) : List Char := (newline? cs).getD cs

/-- Reads a string on one line. -/
def readLineString? (cs : List Char) : Found String :=
  let found := match cs with
    | '"' :: rest => readBasic? (rest.length + 1) rest
    | '\'' :: rest => readLiteral? rest
    | _ => none
  found.map fun (cs, rest) => (String.ofList cs, rest)

/-- Reads a string of any form. -/
def readString? (cs : List Char) : Found String :=
  match cs with
  | '"' :: '"' :: '"' :: rest =>
    (readTripleBasic? (rest.length + 1) (skipFirstNewline rest)).map fun (cs, rest) =>
      (String.ofList cs, rest)
  | '\'' :: '\'' :: '\'' :: rest =>
    (readTripleLiteral? (rest.length + 1) (skipFirstNewline rest)).map fun (cs, rest) =>
      (String.ofList cs, rest)
  | _ => readLineString? cs

/-! ## Writing -/

/-- The forms of a string. -/
inductive StringForm where
  | basic
  | literal
  | tripleBasic
  | tripleLiteral
deriving DecidableEq, Repr

/-- The length of the longest run of a character. -/
def longestRun (c : Char) (cs : List Char) : Nat :=
  (cs.foldl (fun (best, run) d => if d = c then (max best (run + 1), run + 1) else (best, 0))
    (0, 0)).1

/-- Control characters, the tab and, if allowed, the line break apart. -/
def hasControl (allowNewline : Bool) (cs : List Char) : Bool :=
  cs.any fun c => !isTextChar c && !(allowNewline && c = '\n')

/-- The plainest form that holds a text. -/
def stringForm (cs : List Char) : StringForm :=
  if !hasControl false cs && !cs.contains '\\' && !cs.contains '"' then .basic
  else if !hasControl false cs && !cs.contains '\'' then .literal
  else if !hasControl true cs && !cs.contains '\\' && longestRun '"' cs < 3 then .tripleBasic
  else if !hasControl true cs && longestRun '\'' cs < 3 then .tripleLiteral
  else if cs.contains '\n' then .tripleBasic
  else .basic

/-- A hexadecimal digit in upper case. -/
def upperHex (cs : List Char) : List Char := cs.map Char.toUpper

/-- Writes a character that is no quote between double quotes. -/
def escapeChar (keepNewline : Bool) (c : Char) : List Char :=
  if c = '\\' then ['\\', '\\']
  else if c = '\x08' then ['\\', 'b']
  else if c = '\t' then ['\\', 't']
  else if c = '\x0c' then ['\\', 'f']
  else if c = '\r' then ['\\', 'r']
  else if c = '\n' then if keepNewline then ['\n'] else ['\\', 'n']
  else if isTextChar c then [c]
  else ['\\', 'u'] ++ upperHex (Hex.fixed 4 c.toNat)

/-- Writes a text between double quotes of one kind; `quotes` counts the quotes just before, of
which `maxQuotes` may stand together unescaped. -/
def escapeBasic (keepNewline : Bool) (maxQuotes : Nat) : (quotes : Nat) → List Char → List Char
  | _, [] => []
  | quotes, c :: rest =>
    if c ≠ '"' then escapeChar keepNewline c ++ escapeBasic keepNewline maxQuotes 0 rest
    else if maxQuotes ≤ quotes then '\\' :: '"' :: escapeBasic keepNewline maxQuotes 0 rest
    else '"' :: escapeBasic keepNewline maxQuotes (quotes + 1) rest

/-- Opening triple quotes, with a line break if the text has one. -/
def openTriple (quote : Char) (cs : List Char) : List Char :=
  [quote, quote, quote] ++ if cs.contains '\n' then ['\n'] else []

/-- A string in the plainest form that holds it. -/
def writeString (s : String) : List Char :=
  let cs := s.toList
  match stringForm cs with
  | .basic => '"' :: (escapeBasic false 0 0 cs ++ ['"'])
  | .literal => '\'' :: (cs ++ ['\''])
  | .tripleBasic => openTriple '"' cs ++ escapeBasic true 2 0 cs ++ ['"', '"', '"']
  | .tripleLiteral => openTriple '\'' cs ++ cs ++ ['\'', '\'', '\'']

end HybridRetrieval.Toml
