/-!
# Stems

Plural endings, `-ed` and `-ing` are cut from English words.  Words of at most three letters and
words with a letter outside ASCII are left alone.  The first rule that fits decides.
-/

namespace HybridRetrieval

/-- Endings in a hissing sound, whose plural adds `es`. -/
def hissingPlurals : List (List Char) :=
  [['s', 's', 'e', 's'], ['x', 'e', 's'], ['c', 'h', 'e', 's'], ['s', 'h', 'e', 's'],
    ['z', 'e', 's']]

/-- Endings in `s` that are no plural. -/
def singularEndings : List (List Char) := [['s', 's'], ['u', 's'], ['i', 's']]

/-- A word without its last letters. -/
def cutLast (count : Nat) (word : List Char) : List Char := word.take (word.length - count)

/-- Whether a word ends with the given letters. -/
def endsWith (word ending : List Char) : Bool := ending.isSuffixOf word

/-- The stem of a lower-case word. -/
def stem (word : List Char) : List Char :=
  if word.length ≤ 3 ∨ ¬ word.all (·.toNat < 128) then word
  else if endsWith word ['i', 'e', 's'] ∧ 4 < word.length then cutLast 3 word ++ ['y']
  else if hissingPlurals.any (endsWith word) then cutLast 2 word
  else if endsWith word ['s'] ∧ ¬ singularEndings.any (endsWith word) then cutLast 1 word
  else if endsWith word ['i', 'n', 'g'] ∧ 6 ≤ word.length then cutLast 3 word
  else if endsWith word ['e', 'd'] ∧ 5 ≤ word.length then cutLast 2 word
  else word

end HybridRetrieval
