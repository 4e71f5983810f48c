import HybridRetrieval.Text.CaseTable
/-!
# Lower case

`lowerCase` maps a text to lower case by the full mapping: one character may become two, and a
capital sigma takes its final form after a letter with case and before none.
-/

namespace HybridRetrieval

/-- Whether a run has an entry for the code point. -/
def CaseRun.covers (run : CaseRun) (code : Nat) : Bool :=
  run.first ≤ code && code ≤ run.last && (code - run.first) % run.step == 0

/-- The lower case of a character on its own. -/
def lowerChar (c : Char) : List Char :=
  if c.toNat < 128 then [c.toLower]
  else if c = '\u0130' then ['i', '\u0307']
  else match lowerRuns.find? (·.covers c.toNat) with
    | some run => [Char.ofNat (c.toNat + run.offset).toNat]
    | none => [c]

/-- Characters that have a case. -/
def isCased (c : Char) : Bool :=
  if c.toNat < 128 then c.isAlpha else CodeRanges.contains casedRanges c

/-- Characters that are passed over when the case around a letter is looked at; in ASCII the
apostrophe, the full stop, the colon, the circumflex and the grave accent. -/
def isCaseIgnorable (c : Char) : Bool :=
  if c.toNat < 128 then [0x27, 0x2e, 0x3a, 0x5e, 0x60].contains c.toNat
  else CodeRanges.contains caseIgnorableRanges c

/-- Whether the nearest character that is not passed over has a case. -/
def startsCased (cs : List Char) : Bool :=
  match cs.dropWhile isCaseIgnorable with
  | [] => false
  | c :: _ => isCased c

/-- The lower case of a character between the ones before it, nearest first, and those after. -/
def lowerCharIn (before : List Char) (c : Char) (after : List Char) : List Char :=
  if c = 'Σ' then [if startsCased before && !startsCased after then 'ς' else 'σ']
  else lowerChar c

/-- Lower-cases a text that follows the given characters, nearest first. -/
def lowerCaseAfter (before : List Char) : List Char → List Char
  | [] => []
  | c :: rest => lowerCharIn before c rest ++ lowerCaseAfter (c :: before) rest

/-- The lower case of a text. -/
def lowerCase (cs : List Char) : List Char := lowerCaseAfter [] cs

/-- The lower case of a string. -/
def lowerCaseString (s : String) : String := String.ofList (lowerCase s.toList)

end HybridRetrieval
