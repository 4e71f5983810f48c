import HybridRetrieval.Json.NumberText
import HybridRetrieval.Json.StringText
/-!
# JSON documents

A document is a JSON text as a tree: members and items stand in the order of the text, numbers and
strings keep their spelling, and where the text is damaged the tree says what is wrong there.  A
fault may be found in one of two ways: a value that is wanted is *read*, one that is not is
*skipped*, and skipping looks less closely.
-/

namespace HybridRetrieval.Json

/-- Why a well-formed value does not fit what is asked for. -/
inductive Misfit where
  | wrongValue
  | missingField (name : String)
  | duplicateField (name : String)
  | unknownVariant (found : String) (expected : List String)
deriving DecidableEq, Repr

/-- What is wrong with a JSON text: it ends too early, it is malformed, or it holds something else
than what is asked for. -/
inductive Fault where
  | truncated
  | malformed
  | unfit (why : Misfit)
deriving DecidableEq, Repr

/-- The list of alternatives in a message. -/
def alternatives (names : List String) : String :=
  match names with
  | [a] => "`" ++ a ++ "`"
  | [a, b] => "`" ++ a ++ "` or `" ++ b ++ "`"
  | names => "one of " ++ ", ".intercalate (names.map fun a => "`" ++ a ++ "`")

/-- The text of a misfit that names a field or a variant. -/
def Misfit.message? : Misfit → Option String
  | wrongValue => none
  | missingField name => some ("missing field `" ++ name ++ "`")
  | duplicateField name => some ("duplicate field `" ++ name ++ "`")
  | unknownVariant found expected =>
    some ("unknown variant `" ++ found ++ "`, expected " ++ alternatives expected)

/-- How an array or an object ends: at its bracket, at a fault where a comma or the bracket should
stand, or at a fault after a comma. -/
inductive Ending where
  | closed
  | stopped (fault : Fault)
  | afterComma (fault : Fault)
deriving DecidableEq, Repr

/-- A JSON text as a tree.  Numbers and strings hold their spelling, strings without the quotes. -/
inductive Document where
  | null
  | bool (value : Bool)
  | number (spelling : List Char)
  | string (spelling : List Char)
  | array (items : List Document) (ending : Ending)
  | object (members : List (List Char × Document)) (ending : Ending)
  /-- The text ends where a value should begin. -/
  | absent
  /-- A string with a fault. -/
  | badString (read skip : Fault)
  /-- Another value with a fault, or no value at all. -/
  | badValue (read skip : Fault)
deriving Repr, Inhabited

namespace Document

mutual

/-- The document of a value. -/
def ofJson : Json → Document
  | .null => null
  | .bool b => bool b
  | .number n => number n.text
  | .string s => string (Text.escape s.toList)
  | .array items => array (ofItems items) .closed
  | .object members => object (ofMembers members) .closed

/-- The documents of the items of an array. -/
def ofItems : List Json → List Document
  | [] => []
  | item :: rest => ofJson item :: ofItems rest

/-- The documents of the members of an object. -/
def ofMembers : List (String × Json) → List (List Char × Document)
  | [] => []
  | (key, value) :: rest => (Text.escape key.toList, ofJson value) :: ofMembers rest

end

/-- A string between its quotes. -/
def quote (spelling : List Char) : List Char := '"' :: (spelling ++ ['"'])

mutual

/-- The shortest text of a document: no blanks, spellings kept. -/
def render : Document → List Char
  | null => ['n', 'u', 'l', 'l']
  | bool true => ['t', 'r', 'u', 'e']
  | bool false => ['f', 'a', 'l', 's', 'e']
  | number spelling => spelling
  | string spelling => quote spelling
  | array items _ => '[' :: (renderItems items ++ [']'])
  | object members _ => '{' :: (renderMembers members ++ ['}'])
  | absent | badString _ _ | badValue _ _ => []

/-- The items of an array between commas. -/
def renderItems : List Document → List Char
  | [] => []
  | [item] => render item
  | item :: rest => render item ++ ',' :: renderItems rest

/-- The members of an object between commas. -/
def renderMembers : List (List Char × Document) → List Char
  | [] => []
  | [(key, value)] => quote key ++ ':' :: render value
  | (key, value) :: rest => quote key ++ ':' :: (render value ++ ',' :: renderMembers rest)

end

/-- A new line at a depth of nesting. -/
def lineBreak (depth : Nat) : List Char := '\n' :: List.replicate (2 * depth) ' '

mutual

/-- The text with one item or member on a line, indented by two blanks for each level. -/
def pretty (depth : Nat) : Document → List Char
  | array [] _ => ['[', ']']
  | object [] _ => ['{', '}']
  | array items _ => '[' :: (prettyItems (depth + 1) items ++ lineBreak depth ++ [']'])
  | object members _ => '{' :: (prettyMembers (depth + 1) members ++ lineBreak depth ++ ['}'])
  | document => render document

/-- The items of an array, each on a line of its own. -/
def prettyItems (depth : Nat) : List Document → List Char
  | [] => []
  | [item] => lineBreak depth ++ pretty depth item
  | item :: rest => lineBreak depth ++ pretty depth item ++ ',' :: prettyItems depth rest

/-- The members of an object, each on a line of its own. -/
def prettyMembers (depth : Nat) : List (List Char × Document) → List Char
  | [] => []
  | [(key, value)] => lineBreak depth ++ quote key ++ ':' :: ' ' :: pretty depth value
  | (key, value) :: rest =>
    lineBreak depth ++ quote key ++ ':' :: ' ' :: pretty depth value ++
      ',' :: prettyMembers depth rest

end

/-- A record written as an object with its members in the given order. -/
def record (members : List (String × Document)) : Document :=
  object (members.map fun m => (Text.escape m.1.toList, m.2)) .closed

/-- A string value. -/
def ofString (s : String) : Document := string (Text.escape s.toList)

/-- The text of a document as a string. -/
def text (d : Document) : String := String.ofList d.render

/-- The text of a document over several lines. -/
def prettyText (d : Document) : String := String.ofList (d.pretty 0)

end Document

/-- The shortest text of a value. -/
def text (value : Json) : String := (Document.ofJson value).text

end HybridRetrieval.Json
