/-!
# Cells

A cell of a table holds a text or bytes.
-/

namespace HybridRetrieval

/-- A text or bytes. -/
inductive Cell where
  | text (value : String)
  | blob (value : List UInt8)
deriving DecidableEq, Repr

namespace Cell

/-- The text of a cell that holds one. -/
def text? : Cell → Option String
  | text s => some s
  | blob _ => none

/-- The bytes of a cell that holds bytes. -/
def blob? : Cell → Option (List UInt8)
  | text _ => none
  | blob bytes => some bytes

end Cell

end HybridRetrieval
