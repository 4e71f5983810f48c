import HybridRetrieval.Lexeme.Stem
import HybridRetrieval.Lexeme.StopWord
import HybridRetrieval.Lexeme.Word
import HybridRetrieval.Text.LowerCase
/-!
# Lexemes of a text

Documents and queries are cut into lexemes by the same analyzer, so both sides agree on what a term
is.  A document is indexed by its lexemes with their counts, a query by its distinct lexemes.
-/

namespace HybridRetrieval

/-- How words become lexemes: `english` drops stop words and cuts endings, `simple` keeps every
word in lower case. -/
inductive Analyzer where
  | english
  | simple
deriving DecidableEq, Repr

namespace Analyzer

/-- The name of an analyzer in files and messages. -/
def name : Analyzer → String
  | english => "english"
  | simple => "simple"

/-- The names that stand for analyzers in files. -/
def variants : List (String × Analyzer) := [english, simple].map fun a => (a.name, a)

/-- The analyzer with the given name, in any case. -/
def ofName? (s : String) : Option Analyzer :=
  let lower := lowerCaseString s
  if lower = "english" then some english else if lower = "simple" then some simple else none

/-- The lexeme of a lower-case word, if it is one. -/
def lexeme? (a : Analyzer) (word : List Char) : Option String :=
  match a with
  | english =>
    if englishStopWords.contains (String.ofList word) then none
    else some (String.ofList (stem word))
  | simple => some (String.ofList word)

/-- The lexemes of a text in order, with repetitions. -/
def lexemes (a : Analyzer) (text : String) : List String :=
  (words text.toList).filterMap fun word => a.lexeme? (lowerCase word)

/-- The number of occurrences of each member of a list in which equal members stand together. -/
def runLengths : List String → List (String × Nat)
  | [] => []
  | x :: rest =>
    match runLengths rest with
    | (y, n) :: more => if x = y then (y, n + 1) :: more else (x, 1) :: (y, n) :: more
    | [] => [(x, 1)]

/-- The lexemes of a document in ascending order, each with the number of its occurrences.  The
counts have no bound here, but a text in which a lexeme occurs `2 ^ 32` times has more bytes than
the `10 ^ 9` that the database stores in a cell. -/
def documentTerms (a : Analyzer) (text : String) : List (String × Nat) :=
  runLengths ((a.lexemes text).mergeSort fun x y => decide (x ≤ y))

/-- The distinct lexemes of a query in order of first occurrence. -/
def queryTerms (a : Analyzer) (text : String) : List String :=
  (a.lexemes text).eraseDups

end Analyzer

end HybridRetrieval
