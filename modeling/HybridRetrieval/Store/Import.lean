import HybridRetrieval.Store.Write
import HybridRetrieval.Text.CharClass
/-!
# Bulk import

An import file holds one record on each line that is not blank.  All lines are read before anything
is written; the records are then added in batches, each of which is added entirely or not at all.
-/

namespace HybridRetrieval

/-- The lines of a text; the last one may lack its line feed. -/
def textLines : List Char → List (List Char)
  | [] => []
  | '\n' :: rest => [] :: textLines rest
  | c :: rest =>
    match textLines rest with
    | [] => [[c]]
    | line :: lines => (c :: line) :: lines

/-- Whether a line holds no record. -/
def isBlankLine (line : List Char) : Bool := line.all isBlank

/-- The items of lines that are numbered from `number` on, or the number of the first line that is
neither blank nor a record. -/
def itemsOfLines (number : Nat) : List (List Char) → Except Nat (List Item)
  | [] => .ok []
  | line :: rest =>
    if isBlankLine line then itemsOfLines (number + 1) rest
    else
      match Json.decodeText ImportRecord.decoder line with
      | .error _ => .error number
      | .ok record => do return record.toItem :: (← itemsOfLines (number + 1) rest)

/-- The items of an import file. -/
def itemsOfFile (content : String) : Except Nat (List Item) :=
  itemsOfLines 1 (textLines content.toList)

/-- Cuts a list into pieces of `extra + 1`; the last one may be shorter. -/
def batches {α : Type} (extra : Nat) : List α → List (List α)
  | [] => []
  | x :: rest => (x :: rest.take extra) :: batches extra (rest.drop extra)
termination_by items => items.length
decreasing_by
  simp only [List.length_drop, List.length_cons]
  omega

/-- Cuts a list into batches of a size, which is at least one. -/
def batchesOfSize {α : Type} (size : Nat) (items : List α) : List (List α) :=
  batches (size - 1) items

/-- Adds one batch after the other up to the first that fails; the connection is left with the
batches before it. -/
def Store.addBatches (s : Store) : List (List Item) → Connection → Except Error Unit × Connection
  | [], c => (.ok (), c)
  | batch :: rest, c =>
    match s.add batch c with
    | .ok (_, c) => s.addBatches rest c
    | .error e => (.error e, c)

end HybridRetrieval
