import HybridRetrieval.Text.CharClass
/-!
# Words of a text

A word is a maximal run of letters and numbers; everything else separates words.
-/

namespace HybridRetrieval

/-- Puts a letter in front of the words of what follows it: it belongs to the first word exactly
when the text goes on with a letter. -/
def attachLetter (c : Char) (rest : List Char) (tail : List (List Char)) : List (List Char) :=
  match rest, tail with
  | d :: _, word :: more => if isWordChar d then (c :: word) :: more else [c] :: word :: more
  | _, more => [c] :: more

/-- The words of a text in order. -/
def words : List Char → List (List Char)
  | [] => []
  | c :: rest => if isWordChar c then attachLetter c rest (words rest) else words rest

end HybridRetrieval
