import HybridRetrieval.Toml.Scalar
/-!
# Reading TOML

`Toml.read?` reads a whole document.  A document is a sequence of lines with an entry, a header or
a comment; arrays may run over several lines, inline tables may not.  Arrays and inline tables may
be nested, and keys dotted, only so deep.
-/

namespace HybridRetrieval.Toml

/-- How deep arrays and inline tables may be nested, and how many parts a key may have. -/
def maxNesting : Nat := 79

/-- The text behind blanks on the same line. -/
def skipBlanks (cs : List Char) : List Char := cs.dropWhile fun c => c = ' ' || c = '\t'

/-- The text behind a comment, if one begins here. -/
def skipComment (cs : List Char) : List Char :=
  match cs with
  | '#' :: rest => rest.dropWhile isTextChar
  | _ => cs

/-- The text behind the end of the line, with blanks and a comment before it. -/
def lineEnd? (cs : List Char) : Option (List Char) :=
  match skipComment (skipBlanks cs) with
  | [] => some []
  | rest => newline? rest

/-- The text behind blanks, comments and line breaks; a comment must end with its line. -/
def skipLines : (fuel : Nat) → List Char → List Char
  | 0, cs => cs
  | fuel + 1, cs =>
    match skipComment (skipBlanks cs) with
    | [] => []
    | rest =>
      match newline? rest with
      | some rest => skipLines fuel rest
      | none => if (skipBlanks cs).head? = some '#' then skipBlanks cs else rest

/-- The characters of keys without quotes. -/
def isBareKeyChar (c : Char) : Bool := c.isAlphanum || c = '_' || c = '-'

/-- Reads one part of a key. -/
def readKeyPart? (cs : List Char) : Found String :=
  match cs with
  | '"' :: _ | '\'' :: _ => readLineString? cs
  | _ =>
    let bare := cs.takeWhile isBareKeyChar
    if bare.isEmpty then none else some (String.ofList bare, cs.dropWhile isBareKeyChar)

/-- Reads a key with its dots, blanks around each part. -/
def readKey? : (fuel : Nat) → List Char → Found (List String)
  | 0, _ => none
  | fuel + 1, cs =>
    match readKeyPart? (skipBlanks cs) with
    | none => none
    | some (part, rest) =>
      match skipBlanks rest with
      | '.' :: rest => (readKey? fuel rest).map fun (parts, rest) => (part :: parts, rest)
      | rest => some ([part], rest)

/-- Splits the last part of a key off. -/
def splitKey? (parts : List String) : Option (List String × String) :=
  parts.getLast?.map (parts.dropLast, ·)

mutual

/-- Reads a value, given how many levels of nesting are left. -/
def readValue? : (fuel depth : Nat) → List Char → Found Toml
  | 0, _, _ => none
  | fuel + 1, depth, cs =>
    match cs with
    | '"' :: _ | '\'' :: _ => (readString? cs).map fun (s, rest) => (.string s, rest)
    | '[' :: rest =>
      if depth = 0 then none
      else (readItems? fuel (depth - 1) rest).map fun (items, rest) => (.array items, rest)
    | '{' :: rest =>
      if depth = 0 then none
      else
        match skipBlanks rest with
        | '}' :: rest => some (.inline [], rest)
        | rest =>
          (readPairs? fuel (depth - 1) [] rest).map fun (entries, rest) => (.inline entries, rest)
    | _ => readScalar? cs

/-- Reads the items of an array and its closing bracket. -/
def readItems? : (fuel depth : Nat) → List Char → Found (List Toml)
  | 0, _, _ => none
  | fuel + 1, depth, cs =>
    match skipLines cs.length cs with
    | ']' :: rest => some ([], rest)
    | cs =>
      match readValue? fuel depth cs with
      | none => none
      | some (item, rest) =>
        match skipLines rest.length rest with
        | ',' :: rest => (readItems? fuel depth rest).map fun (items, rest) => (item :: items, rest)
        | ']' :: rest => some ([item], rest)
        | _ => none

/-- Reads the entries of an inline table, which follow those read so far, and its closing brace. -/
def readPairs? : (fuel depth : Nat) → Entries → List Char → Found Entries
  | 0, _, _, _ => none
  | fuel + 1, depth, entries, cs =>
    match readKey? cs.length cs with
    | none => none
    | some (parts, rest) =>
      match splitKey? parts, rest with
      | some (path, key), '=' :: rest =>
        if maxNesting < parts.length then none
        else
          match readValue? fuel depth (skipBlanks rest) with
          | none => none
          | some (value, rest) =>
            match define false entries path key value with
            | none => none
            | some entries =>
              match skipBlanks rest with
              | ',' :: rest => readPairs? fuel depth entries rest
              | '}' :: rest => some (entries, rest)
              | _ => none
      | _, _ => none

end

/-- Reads the key of a header and its closing bracket or brackets. -/
def readHeader? (closing : List Char) (cs : List Char) : Found (List String × String) :=
  match readKey? (cs.length + 1) cs with
  | none => none
  | some (parts, rest) =>
    if closing.isPrefixOf rest && parts.length ≤ maxNesting then
      match splitKey? parts, lineEnd? (rest.drop closing.length) with
      | some key, some rest => some (key, rest)
      | _, _ => none
    else none

/-- Reads an entry to the end of its line. -/
def readKeyValue? (cs : List Char) : Found Statement :=
  match readKey? (cs.length + 1) cs with
  | none => none
  | some (parts, rest) =>
    match splitKey? parts, rest with
    | some (path, key), '=' :: rest =>
      if maxNesting < parts.length then none
      else
        match readValue? (2 * rest.length + 2) maxNesting (skipBlanks rest) with
        | none => none
        | some (value, rest) => (lineEnd? rest).map fun rest => (.entry path key value, rest)
    | _, _ => none

/-- Reads the statements of a document, a line at a time. -/
def readStatements? : (fuel : Nat) → List Char → Option (List Statement)
  | 0, _ => none
  | fuel + 1, cs =>
    match skipBlanks cs with
    | [] => some []
    | cs =>
      let found : Found (Option Statement) :=
        match cs with
        | '[' :: '[' :: rest =>
          (readHeader? [']', ']'] rest).map fun (key, rest) =>
            (some (.arrayHeader key.1 key.2), rest)
        | '[' :: rest =>
          (readHeader? [']'] rest).map fun (key, rest) => (some (.header key.1 key.2), rest)
        | c :: _ =>
          if c = '#' ∨ c = '\n' ∨ c = '\r' then (lineEnd? cs).map fun rest => (none, rest)
          else (readKeyValue? cs).map fun (statement, rest) => (some statement, rest)
        | [] => none
      match found with
      | none => none
      | some (statement, rest) => (readStatements? fuel rest).map (statement.toList ++ ·)

/-- Reads a document; a byte order mark before it is skipped. -/
def read? (cs : List Char) : Option Entries :=
  let cs := match cs with
    | '\ufeff' :: rest => rest
    | _ => cs
  (readStatements? (cs.length + 1) cs).bind (run [] [])

end HybridRetrieval.Toml
