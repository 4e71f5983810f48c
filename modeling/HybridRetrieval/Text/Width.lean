import HybridRetrieval.Text.CharClass
import HybridRetrieval.Text.WidthTable
/-!
# Columns of a text on a terminal

Most characters take one column, East Asian characters and emoji two, and those that join another
character none.  An emoji selector widens the symbol before it, and a joined emoji sequence takes
the columns of its first emoji.
-/

namespace HybridRetrieval

/-- The columns of a character on its own. -/
def charColumns (c : Char) : Nat :=
  if c.toNat < 0x20 ∨ (0x7f ≤ c.toNat ∧ c.toNat < 0xa0) then 0
  else if c.toNat < 0x7f then 1
  else if isExtender c || CodeRanges.contains invisibleRanges c then 0
  else if CodeRanges.contains wideRanges c then 2
  else 1

/-- Symbols from the pictographic blocks that take two columns. -/
def isWideEmoji (c : Char) : Bool := 0x1f000 ≤ c.toNat && charColumns c == 2

/-- The columns of a text. -/
def textColumns : List Char → Nat
  | [] => 0
  | c :: '\ufe0f' :: rest =>
    (if CodeRanges.contains narrowEmojiRanges c then 2 else charColumns c) + textColumns rest
  | c :: '\u200d' :: d :: rest =>
    if isWideEmoji c && isWideEmoji d then textColumns (d :: rest)
    else charColumns c + textColumns (d :: rest)
  | c :: d :: rest =>
    if isWideEmoji c && 0x1f3fb ≤ d.toNat && d.toNat ≤ 0x1f3ff then textColumns (c :: rest)
    else charColumns c + textColumns (d :: rest)
  | [c] => charColumns c
termination_by cs => cs.length

end HybridRetrieval
