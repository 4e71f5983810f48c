import HybridRetrieval.Json.Document
/-!
# Reading JSON text

`Document.read` turns any text into a document and the characters after it; where the text is
damaged the document holds the fault and nothing comes after it.
-/

namespace HybridRetrieval.Json

/-- The blanks of JSON. -/
def isJsonBlank (c : Char) : Bool := c = ' ' || c = '\t' || c = '\n' || c = '\r'

/-- The text from its first character that is no blank. -/
def skipBlanks (cs : List Char) : List Char := cs.dropWhile isJsonBlank

/-- The spelling of a string up to its closing quote and what follows, or the part before a fault
and the fault. -/
inductive StringScan where
  | closed (spelling rest : List Char)
  | faulty (spelling : List Char) (fault : Fault)
deriving Repr

/-- Puts characters in front of the spelling. -/
def StringScan.prepend (front : List Char) : StringScan → StringScan
  | closed spelling rest => closed (front ++ spelling) rest
  | faulty spelling fault => faulty (front ++ spelling) fault

/-- The number of bytes of a text. -/
def byteCount (cs : List Char) : Nat := cs.foldl (fun n c => n + c.utf8Size) 0

/-- Scans a string from behind its opening quote.  A numeric escape with fewer than four bytes left
is truncated. -/
def scanString : List Char → StringScan
  | [] => .faulty [] .truncated
  | '"' :: rest => .closed [] rest
  | ['\\'] => .faulty [] .truncated
  | '\\' :: 'u' :: a :: b :: c :: d :: rest =>
    if (Hex.toNat? [a, b, c, d]).isSome then
      (scanString rest).prepend ['\\', 'u', a, b, c, d]
    else .faulty [] .malformed
  | '\\' :: 'u' :: rest => .faulty [] (if byteCount rest < 4 then .truncated else .malformed)
  | '\\' :: c :: rest =>
    if (Text.shortEscape? c).isSome then (scanString rest).prepend ['\\', c]
    else .faulty [] .malformed
  | c :: rest =>
    if c.toNat < 0x20 then .faulty [] .malformed else (scanString rest).prepend [c]

/-- A document and what follows it, if the text could be read that far. -/
abbrev Reading := Document × Option (List Char)

/-- Reads a string from behind its opening quote. -/
def readString (cs : List Char) : Reading :=
  match scanString cs with
  | .closed spelling rest => (.string spelling, some rest)
  | .faulty spelling fault =>
    (.badString (if Text.hasLoneSurrogate spelling then .malformed else fault) fault, none)

/-- Reads the letters of a literal; the text may end too early or differ. -/
def readLiteral (value : Document) : List Char → List Char → Reading
  | [], rest => (value, some rest)
  | _ :: _, [] => (.badValue .truncated .truncated, none)
  | l :: letters, c :: rest =>
    if l = c then readLiteral value letters rest else (.badValue .malformed .malformed, none)

/-- A number that lacks a digit: when it is read, the end of the text is told apart. -/
def digitMissing (rest : List Char) : Reading :=
  (.badValue (if rest.isEmpty then .truncated else .malformed) .malformed, none)

/-- Reads an exponent from behind its letter, after the spelling so far. -/
def readExponentPart (spelling cs : List Char) : Reading :=
  let sign := match cs with
    | '+' :: _ => ['+']
    | '-' :: _ => ['-']
    | _ => []
  let unsigned := cs.drop sign.length
  let digits := unsigned.takeWhile Char.isDigit
  let rest := unsigned.dropWhile Char.isDigit
  if digits.isEmpty then digitMissing rest else (.number (spelling ++ sign ++ digits), some rest)

/-- Reads what may follow the digits of a number: an exponent. -/
def readAfterDigits (spelling cs : List Char) : Reading :=
  match cs with
  | 'e' :: rest => readExponentPart (spelling ++ ['e']) rest
  | 'E' :: rest => readExponentPart (spelling ++ ['E']) rest
  | _ => (.number spelling, some cs)

/-- Reads a fraction and an exponent, if any, after the whole part. -/
def readAfterWhole (spelling cs : List Char) : Reading :=
  match cs with
  | '.' :: rest =>
    let digits := rest.takeWhile Char.isDigit
    let rest := rest.dropWhile Char.isDigit
    if digits.isEmpty then digitMissing rest
    else readAfterDigits (spelling ++ '.' :: digits) rest
  | _ => readAfterDigits spelling cs

/-- Reads an unsigned number after its sign.  The whole part has no superfluous zero. -/
def readUnsigned (sign cs : List Char) : Reading :=
  let digits := cs.takeWhile Char.isDigit
  let rest := cs.dropWhile Char.isDigit
  if digits.isEmpty then digitMissing rest
  else if digits.head? == some '0' && 1 < digits.length then
    (.badValue .malformed .malformed, none)
  else readAfterWhole (sign ++ digits) rest

/-- Reads a literal or a number, or finds that no value begins here. -/
def readScalar (cs : List Char) : Reading :=
  match cs with
  | [] => (.absent, none)
  | 'n' :: rest => readLiteral .null ['u', 'l', 'l'] rest
  | 't' :: rest => readLiteral (.bool true) ['r', 'u', 'e'] rest
  | 'f' :: rest => readLiteral (.bool false) ['a', 'l', 's', 'e'] rest
  | '-' :: rest => readUnsigned ['-'] rest
  | c :: _ => if c.isDigit then readUnsigned [] cs else (.badValue .malformed .malformed, none)

/-- Where something else than a comma or the closing bracket follows. -/
def unexpected (rest : List Char) : Fault := if rest.isEmpty then .truncated else .malformed

mutual

/-- Reads one value after blanks.  Of two calls one inside the other at least one consumes a
character, so twice the length of the text is enough fuel. -/
def readValue : (fuel : Nat) → List Char → Reading
  | 0, _ => (.absent, none)
  | fuel + 1, cs =>
    match skipBlanks cs with
    | '"' :: rest => readString rest
    | '[' :: rest =>
      match skipBlanks rest with
      | [] => (.array [] (.stopped .truncated), none)
      | ']' :: rest => (.array [] .closed, some rest)
      | rest =>
        let (items, ending, rest) := readItems fuel rest
        (.array items ending, rest)
    | '{' :: rest =>
      match skipBlanks rest with
      | '}' :: rest => (.object [] .closed, some rest)
      | '"' :: rest =>
        let (members, ending, rest) := readMembers fuel rest
        (.object members ending, rest)
      | rest => (.object [] (.stopped (unexpected rest)), none)
    | rest => readScalar rest

/-- Reads the items of an array from the first character of an item. -/
def readItems : (fuel : Nat) → List Char → List Document × Ending × Option (List Char)
  | 0, _ => ([], .stopped .truncated, none)
  | fuel + 1, cs =>
    match readValue fuel cs with
    | (item, none) => ([item], .stopped .truncated, none)
    | (item, some rest) =>
      match skipBlanks rest with
      | ']' :: rest => ([item], .closed, some rest)
      | ',' :: rest =>
        match skipBlanks rest with
        | [] => ([item], .afterComma .truncated, none)
        | ']' :: _ => ([item], .afterComma .malformed, none)
        | rest =>
          let (items, ending, rest) := readItems fuel rest
          (item :: items, ending, rest)
      | rest => ([item], .stopped (unexpected rest), none)

/-- Reads the members of an object from behind the opening quote of a key. -/
def readMembers :
    (fuel : Nat) → List Char → List (List Char × Document) × Ending × Option (List Char)
  | 0, _ => ([], .stopped .truncated, none)
  | fuel + 1, cs =>
    match scanString cs with
    | .faulty spelling fault =>
      ([], .stopped (if Text.hasLoneSurrogate spelling then .malformed else fault), none)
    | .closed key rest =>
      match skipBlanks rest with
      | ':' :: rest =>
        match readValue fuel rest with
        | (value, none) => ([(key, value)], .stopped .truncated, none)
        | (value, some rest) =>
          match skipBlanks rest with
          | '}' :: rest => ([(key, value)], .closed, some rest)
          | ',' :: rest =>
            match skipBlanks rest with
            | '"' :: rest =>
              let (members, ending, rest) := readMembers fuel rest
              ((key, value) :: members, ending, rest)
            | rest => ([(key, value)], .afterComma (unexpected rest), none)
          | rest => ([(key, value)], .stopped (unexpected rest), none)
      | [] => ([(key, .absent)], .stopped .truncated, none)
      | _ => ([(key, .badValue .malformed .malformed)], .stopped .malformed, none)

end

/-- Reads the value at the start of a text. -/
def Document.read (cs : List Char) : Reading := readValue (2 * cs.length + 2) cs

end HybridRetrieval.Json
