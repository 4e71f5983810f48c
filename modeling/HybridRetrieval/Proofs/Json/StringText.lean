import HybridRetrieval.Json.Reader
/-!
# Strings read back

A string is written between quotes with its escapes, and reading finds the same string: the scan
stops at the closing quote (`scanString_escape`) and the spelling stands for the characters it was
made from (`unescape?_escape`).
-/

namespace HybridRetrieval.Json

namespace Text

/-- A character is escaped by a letter, by its code if it is a control character, or not at all. -/
theorem escapeChar_cases (c : Char) :
    (∃ letter, escapeChar c = ['\\', letter] ∧ letter ≠ 'u' ∧ shortEscape? letter = some c) ∨
    (c.toNat < 0x20 ∧ escapeChar c = '\\' :: 'u' :: '0' :: '0' :: Hex.fixed 2 c.toNat) ∨
    (escapeChar c = [c] ∧ c ≠ '"' ∧ c ≠ '\\' ∧ ¬ c.toNat < 0x20) := by
  by_cases hshort : c ∈ ['"', '\\', '\x08', '\x0c', '\n', '\r', '\t']
  · left
    simp only [List.mem_cons, List.not_mem_nil, or_false] at hshort
    rcases hshort with rfl | rfl | rfl | rfl | rfl | rfl | rfl <;>
      exact ⟨_, rfl, by decide, by rfl⟩
  · simp only [List.mem_cons, List.not_mem_nil, or_false, not_or] at hshort
    obtain ⟨hquote, hbackslash, hb, hf, hn, hr, ht⟩ := hshort
    by_cases hcontrol : c.toNat < 0x20
    · exact .inr (.inl ⟨hcontrol, by simp [escapeChar, *]⟩)
    · exact .inr (.inr ⟨by simp [escapeChar, *], hquote, hbackslash, hcontrol⟩)

/-- The escape of a control character has four digits that spell its code. -/
theorem hex_control : ∀ code < 0x20, ∃ a b, Hex.fixed 2 code = [a, b] ∧
    Hex.toNat? ['0', '0', a, b] = some code ∧ ¬ isTrailSurrogate code ∧ ¬ isLeadSurrogate code := by
  intro code hcode
  refine ⟨_, _, rfl, ?_, ?_⟩
  · revert code
    decide
  · simp only [isTrailSurrogate, isLeadSurrogate]
    grind

/-- What stands for a character is one piece, and the piece stands for the character. -/
theorem pieces?_escapeChar (c : Char) : ∃ piece, ∀ rest,
    pieces? (escapeChar c ++ rest) = (pieces? rest).map (piece :: ·) ∧
      ∀ pieces, joinPieces? (piece :: pieces) = (joinPieces? pieces).map (c :: ·) := by
  obtain ⟨letter, hescape, hletter, hshort⟩ | ⟨hcontrol, hescape⟩ |
    ⟨hescape, -, hbackslash, -⟩ := escapeChar_cases c
  · refine ⟨.char c, fun rest => ⟨?_, fun pieces => by rw [joinPieces?]⟩⟩
    simp [hescape, pieces?, hletter, hshort]
  · obtain ⟨a, b, hfixed, hcode, htrail, hlead⟩ := hex_control c.toNat hcontrol
    refine ⟨.unit c.toNat, fun rest => ⟨?_, fun pieces => ?_⟩⟩
    · simp [hescape, hfixed, pieces?, hcode]
    · rw [joinPieces?.eq_def]
      simp [htrail, hlead]
  · refine ⟨.char c, fun rest => ⟨?_, fun pieces => by rw [joinPieces?]⟩⟩
    simp [hescape, pieces?, hbackslash]

/-- **The escaped text of a string stands for the string.** -/
theorem unescape?_escape (cs : List Char) : unescape? (escape cs) = some cs := by
  induction cs with
  | nil => rfl
  | cons c cs ih =>
      obtain ⟨piece, hpiece⟩ := pieces?_escapeChar c
      rw [unescape?, Option.bind_eq_some_iff] at ih
      obtain ⟨pieces, hpieces, hjoin⟩ := ih
      rw [unescape?, escape, List.flatMap_cons, (hpiece _).1]
      rw [escape] at hpieces
      rw [hpieces, Option.map_some, Option.bind_some, (hpiece []).2, hjoin, Option.map_some]

end Text

/-- The scan of a string goes over what stands for a character. -/
theorem scanString_escapeChar (c : Char) (rest : List Char) :
    scanString (Text.escapeChar c ++ rest) =
      (scanString rest).prepend (Text.escapeChar c) := by
  obtain ⟨letter, hescape, hletter, hshort⟩ | ⟨hcontrol, hescape⟩ |
    ⟨hescape, hquote, hbackslash, hplain⟩ := Text.escapeChar_cases c
  · simp [hescape, scanString, hletter, hshort]
  · obtain ⟨a, b, hfixed, hcode, -⟩ := Text.hex_control c.toNat hcontrol
    simp [hescape, hfixed, scanString, hcode]
  · simp [hescape, scanString, hbackslash, hplain]

/-- **The scan of a string ends at its closing quote.** -/
theorem scanString_escape (cs rest : List Char) :
    scanString (Text.escape cs ++ '"' :: rest) = .closed (Text.escape cs) rest := by
  induction cs with
  | nil => rw [Text.escape, List.flatMap_nil, List.nil_append, scanString]
  | cons c cs ih =>
      rw [Text.escape] at ih ⊢
      rw [List.flatMap_cons, List.append_assoc, scanString_escapeChar, ih, StringScan.prepend]

end HybridRetrieval.Json
