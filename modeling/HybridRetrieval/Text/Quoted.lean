import HybridRetrieval.Text.CharClass
import HybridRetrieval.Text.Hex
/-!
# Quotations in messages

Messages show a text between double quotes, with what cannot be printed written as an escape.
-/

namespace HybridRetrieval

/-- An escape by code point. -/
def codeEscape (c : Char) : List Char := ['\\', 'u', '\x7b'] ++ Hex.ofNat c.toNat ++ ['\x7d']

/-- A character inside a quotation whose quotes are escaped. -/
def quotedChar (quotes : List Char) (c : Char) : List Char :=
  if c = '\x00' then ['\\', '0']
  else if c = '\t' then ['\\', 't']
  else if c = '\r' then ['\\', 'r']
  else if c = '\n' then ['\\', 'n']
  else if c = '\\' ∨ c ∈ quotes then ['\\', c]
  else if isExtender c || !isPrintable c then codeEscape c
  else [c]

/-- A text between double quotes, with the given quotes escaped in it. -/
def quotedWith (quotes : List Char) (s : String) : String :=
  String.ofList ('"' :: (s.toList.flatMap (quotedChar quotes) ++ ['"']))

/-- A text as messages show it: double quotes in it are escaped. -/
def quoted (s : String) : String := quotedWith ['"'] s

/-- A file path as messages show it: quotes of both kinds are escaped. -/
def quotedPath (s : String) : String := quotedWith ['"', '\''] s

end HybridRetrieval
