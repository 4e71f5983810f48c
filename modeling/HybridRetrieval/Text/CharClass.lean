import HybridRetrieval.Text.WordTable
import HybridRetrieval.Text.PrintTable
/-!
# Character classes

Letters and numbers make up words, blanks surround them, and the characters outside these classes
that have no printed form of their own are escaped in quotations.  ASCII is decided without the
tables.
-/

namespace HybridRetrieval

/-- Letters and numbers of any script. -/
def isWordChar (c : Char) : Bool :=
  if c.toNat < 128 then c.isAlphanum else CodeRanges.contains wordRanges c

/-- The characters with the white-space property. -/
def isBlank (c : Char) : Bool :=
  CodeRanges.contains [(0x9, 0xd), (0x20, 0x20), (0x85, 0x85), (0xa0, 0xa0), (0x1680, 0x1680),
    (0x2000, 0x200a), (0x2028, 0x2029), (0x202f, 0x202f), (0x205f, 0x205f), (0x3000, 0x3000)] c

/-- Characters that are printed as they are. -/
def isPrintable (c : Char) : Bool :=
  if c.toNat < 128 then 0x20 ≤ c.toNat && c.toNat < 0x7f
  else !CodeRanges.contains unprintableRanges c

/-- Characters that join the one before them. -/
def isExtender (c : Char) : Bool :=
  0x300 ≤ c.toNat && CodeRanges.contains extenderRanges c

end HybridRetrieval
