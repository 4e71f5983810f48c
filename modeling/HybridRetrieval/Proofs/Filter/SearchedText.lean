import HybridRetrieval.Filter.Evaluation
import HybridRetrieval.Proofs.Filter.Characters
import HybridRetrieval.Proofs.Json.Decoding
/-!
# What stored metadata offers to filters

The text of a sound document has no NUL (`nul_notMem_render`) and is read as that document, so the
text of metadata offers its document to filters unless it is nested too deep
(`Metadata.searched_text`), and a filter can be evaluated on it if its key has no NUL
(`Filter.holds_text`).
-/

namespace HybridRetrieval

open Json

/-! ## No NUL in a text -/

/-- Neither digits nor the other characters of a number are NUL. -/
theorem Json.Spelling.nul_notMem_text {s : Spelling} (h : s.Sound) : '\x00' ∉ s.text := by
  have hdigits : ∀ {cs : List Char}, IsDigits cs → '\x00' ∉ cs :=
    fun hcs hmem => absurd (hcs _ hmem) (by decide)
  have hsign : '\x00' ∉ (if s.negative then ['-'] else []) := by split <;> decide
  have hfraction : '\x00' ∉ s.fractionText := by
    unfold fractionText
    split
    · simp
    · simpa using hdigits h.fraction
  have hexponent : '\x00' ∉ s.exponentText := by
    unfold exponentText
    split
    · simp
    · rename_i negative digits heq
      have hmem := hdigits (h.exponent _ heq).2
      cases negative <;> simpa using hmem
  rw [text]
  simp only [List.mem_append, not_or]
  exact ⟨hsign, hdigits h.whole.2, hfraction, hexponent⟩

/-- Escaping leaves no control character. -/
theorem Json.Text.nul_notMem_escape (cs : List Char) : '\x00' ∉ escape cs := by
  intro hmem
  obtain ⟨c, -, hc⟩ := List.mem_flatMap.mp hmem
  obtain ⟨letter, hescape, -, hshort⟩ | ⟨hcontrol, hescape⟩ | ⟨hescape, -, -, hplain⟩ :=
    escapeChar_cases c
  · rw [hescape] at hc
    obtain rfl : '\x00' = letter := by simpa using hc
    cases hshort
  · have hdigits : ∀ code < 0x20, '\x00' ∉ '\\' :: 'u' :: '0' :: '0' :: Hex.fixed 2 code := by
      decide
    rw [hescape] at hc
    exact hdigits _ hcontrol hc
  · rw [hescape] at hc
    obtain rfl := List.mem_singleton.mp hc
    exact hplain (by decide)

namespace Json.Document

mutual

/-- **The text of a sound document has no NUL.** -/
theorem nul_notMem_render : (d : Document) → d.Sound → '\x00' ∉ d.render
  | null, _ => by decide
  | bool b, _ => by cases b <;> decide
  | number spelling, ⟨s, hs, heq⟩ => by
      subst heq
      exact s.nul_notMem_text hs
  | string spelling, ⟨cs, heq⟩ => by
      subst heq
      simpa [render, quote] using Text.nul_notMem_escape cs
  | array items ending, ⟨_, hitems⟩ => by
      simpa [render] using nul_notMem_renderItems items hitems
  | object members ending, ⟨_, hmembers⟩ => by
      simpa [render] using nul_notMem_renderMembers members hmembers

theorem nul_notMem_renderItems : (items : List Document) → SoundItems items →
    '\x00' ∉ renderItems items
  | [], _ => by simp [renderItems]
  | [item], h => by
      rw [renderItems]
      exact nul_notMem_render item h.1
  | item :: next :: items, h => by
      have hitem := nul_notMem_render item h.1
      have hrest := nul_notMem_renderItems (next :: items) h.2
      rw [renderItems.eq_3 _ _ (by simp)]
      simp [hitem, hrest]

theorem nul_notMem_renderMembers : (members : List (List Char × Document)) →
    SoundMembers members → '\x00' ∉ renderMembers members
  | [], _ => by simp [renderMembers]
  | [(key, value)], ⟨⟨cs, hkey⟩, hvalue, _⟩ => by
      subst hkey
      have hmem := nul_notMem_render value hvalue
      rw [renderMembers]
      simpa [quote, hmem] using Text.nul_notMem_escape cs
  | (key, value) :: next :: members, ⟨⟨cs, hkey⟩, hvalue, hmembers⟩ => by
      subst hkey
      have hmem := nul_notMem_render value hvalue
      have hrest := nul_notMem_renderMembers (next :: members) hmembers
      rw [renderMembers.eq_3 _ _ _ (by simp)]
      simpa [quote, hmem, hrest] using Text.nul_notMem_escape cs

end

/-! ## Searching a document -/

mutual

/-- A sound document is skipped without a fault. -/
theorem skip_of_sound : (d : Document) → d.Sound → d.skip = .ok ()
  | null, _ | bool _, _ | number _, _ | string _, _ => by simp [skip]
  | array items ending, ⟨hclosed, hitems⟩ => by
      rw [skip, skipItems_of_sound items hitems, hclosed]
      rfl
  | object members ending, ⟨hclosed, hmembers⟩ => by
      rw [skip, skipMembers_of_sound members hmembers, hclosed]
      rfl

theorem skipItems_of_sound : (items : List Document) → SoundItems items → skipItems items = .ok ()
  | [], _ => by simp [skipItems]
  | item :: rest, h => by
      rw [skipItems, skip_of_sound item h.1, skipItems_of_sound rest h.2]
      rfl

theorem skipMembers_of_sound : (members : List (List Char × Document)) → SoundMembers members →
    skipMembers members = .ok ()
  | [], _ => by simp [skipMembers]
  | (_, value) :: rest, h => by
      rw [skipMembers, skip_of_sound value h.2.1, skipMembers_of_sound rest h.2.2]
      rfl

end

mutual

/-- The search counts nesting as the reader does. -/
theorem depth_eq_nesting : (d : Document) → d.depth = d.nesting
  | null | bool _ | number _ | string _ | absent | badString _ _ | badValue _ _ => by
      simp [depth, nesting]
  | array items _ => by rw [depth, nesting, depthOfItems_eq_nestingItems items]
  | object members _ => by rw [depth, nesting, depthOfMembers_eq_nestingMembers members]

theorem depthOfItems_eq_nestingItems : (items : List Document) →
    depthOfItems items = nestingItems items
  | [] => by simp [depthOfItems, nestingItems]
  | item :: rest => by
      rw [depthOfItems, nestingItems, depth_eq_nesting item, depthOfItems_eq_nestingItems rest]

theorem depthOfMembers_eq_nestingMembers : (members : List (List Char × Document)) →
    depthOfMembers members = nestingMembers members
  | [] => by simp [depthOfMembers, nestingMembers]
  | (_, value) :: rest => by
      rw [depthOfMembers, nestingMembers, depth_eq_nesting value,
        depthOfMembers_eq_nestingMembers rest]

end

/-- A sound document is found in its text unless it is nested too deep. -/
theorem searchable?_render {d : Document} (h : d.Sound) :
    searchable? d.render = if d.nesting ≤ maxSearchDepth then some d else none := by
  rw [searchable?, takeWhile_of_nul_notMem (d.nul_notMem_render h), read_render h]
  simp [skip_of_sound d h, depth_eq_nesting, skipBlanks, Except.toBool]

end Json.Document

/-! ## Stored metadata -/

/-- **The text of metadata offers its document**, unless it is nested too deep. -/
theorem Metadata.searched_text (m : Metadata) : (Cell.text m.text).searched =
    if m.toDocument.nesting ≤ maxSearchDepth then .document m.toDocument else .malformed := by
  have htext : m.text.toList = m.toDocument.render := by simp [text, Document.text]
  rw [Cell.searched, htext, Document.searchable?_render m.sound_toDocument]
  by_cases hdepth : m.toDocument.nesting ≤ maxSearchDepth
  · rw [if_pos hdepth, if_pos hdepth]
  · rw [if_neg hdepth, if_neg hdepth]

/-- **A filter on stored metadata** can be evaluated if its key has no NUL. -/
theorem Filter.holds_text (f : Filter) {m : Metadata}
    (h : m.toDocument.nesting ≤ maxSearchDepth) :
    f.holds (.text m.text) =
      if '\x00' ∈ f.key.toList then .error .storage else .ok (f.holdsOf m.toDocument) := by
  rw [holds, m.searched_text, if_pos h]
  simp

end HybridRetrieval
