import HybridRetrieval.Proofs.Json.Spelling
import HybridRetrieval.Proofs.Json.StringText
/-!
# Documents read back

Reading inverts writing: the text of a sound document is read as that document
(`Document.read_render`).  The induction is on the document, with the reader's fuel kept at twice
the length of what is still to be read.
-/

namespace HybridRetrieval.Json

namespace Document

mutual

/-- Nothing in the document is damaged, and its spellings are those of numbers and strings. -/
def Sound : Document → Prop
  | null | bool _ => True
  | number spelling => ∃ s : Spelling, s.Sound ∧ spelling = s.text
  | string spelling => ∃ cs, spelling = Text.escape cs
  | array items ending => ending = .closed ∧ SoundItems items
  | object members ending => ending = .closed ∧ SoundMembers members
  | absent | badString _ _ | badValue _ _ => False

/-- The items are sound. -/
def SoundItems : List Document → Prop
  | [] => True
  | item :: rest => item.Sound ∧ SoundItems rest

/-- The keys and the values of the members are sound. -/
def SoundMembers : List (List Char × Document) → Prop
  | [] => True
  | (key, value) :: rest => (∃ cs, key = Text.escape cs) ∧ value.Sound ∧ SoundMembers rest

end

end Document

theorem skipBlanks_cons {c : Char} {cs : List Char} (h : isJsonBlank c = false) :
    skipBlanks (c :: cs) = c :: cs :=
  List.dropWhile_cons_of_neg (by simp [h])

/-- A sign or a digit begins neither blanks nor another value, and closes no array. -/
theorem first_of_number {c : Char} (h : c = '-' ∨ c.isDigit = true) :
    isJsonBlank c = false ∧ c ≠ ']' ∧ c ≠ '"' ∧ c ≠ '[' ∧ c ≠ '{' := by
  simp only [isJsonBlank, Bool.or_eq_false_iff, decide_eq_false_iff_not]
  refine ⟨⟨⟨⟨?_, ?_⟩, ?_⟩, ?_⟩, ?_, ?_, ?_, ?_⟩ <;> (rintro rfl; revert h; decide)

/-- The first character of a number: a sign or a digit. -/
theorem Spelling.Sound.exists_text {s : Spelling} (h : s.Sound) :
    ∃ c more, s.text = c :: more ∧ (c = '-' ∨ c.isDigit = true) := by
  unfold Spelling.text
  cases s.negative with
  | true => exact ⟨'-', _, rfl, .inl rfl⟩
  | false =>
      obtain ⟨c, more, hwhole, hc, -⟩ := h.exists_digit
      exact ⟨c, more ++ (s.fractionText ++ s.exponentText), by simp [hwhole], .inr hc⟩

/-- A number is read as a value. -/
theorem Spelling.readValue_text {s : Spelling} (h : s.Sound) {rest : List Char}
    (hrest : Delimited rest) (fuel : Nat) :
    readValue (fuel + 1) (s.text ++ rest) = (.number s.text, some rest) := by
  obtain ⟨c, more, htext, hc⟩ := h.exists_text
  obtain ⟨hblank, -, hquote, hbracket, hbrace⟩ := first_of_number hc
  have hscalar := readScalar_text h hrest
  rw [htext] at hscalar ⊢
  rw [readValue, List.cons_append, skipBlanks_cons hblank]
  simpa [hquote, hbracket, hbrace] using hscalar

namespace Document

/-- The text of a sound document begins with a character that is no blank and closes no array. -/
theorem Sound.exists_render {d : Document} (h : d.Sound) :
    ∃ c more, d.render = c :: more ∧ isJsonBlank c = false ∧ c ≠ ']' := by
  cases d with
  | null => exact ⟨_, _, rfl, by decide, by decide⟩
  | bool value => cases value <;> exact ⟨_, _, rfl, by decide, by decide⟩
  | number spelling =>
      obtain ⟨s, hs, rfl⟩ := h
      obtain ⟨c, more, htext, hc⟩ := hs.exists_text
      obtain ⟨hblank, hbracket, -⟩ := first_of_number hc
      exact ⟨c, more, htext, hblank, hbracket⟩
  | string spelling => exact ⟨'"', _, rfl, by decide, by decide⟩
  | array items ending => exact ⟨'[', _, rfl, by decide, by decide⟩
  | object members ending => exact ⟨'{', _, rfl, by decide, by decide⟩
  | absent | badString _ _ | badValue _ _ => exact h.elim

/-- The text of sound items begins like that of the first. -/
theorem exists_renderItems {item : Document} {items : List Document}
    (h : SoundItems (item :: items)) :
    ∃ c more, renderItems (item :: items) = c :: more ∧ isJsonBlank c = false ∧ c ≠ ']' := by
  obtain ⟨c, more, hrender, hc⟩ := h.1.exists_render
  cases items with
  | nil => exact ⟨c, more, by rw [renderItems, hrender], hc⟩
  | cons next items =>
      exact ⟨c, more ++ ',' :: renderItems (next :: items), by simp [renderItems, hrender], hc⟩

/-- The text of members begins with the quote of the first key. -/
theorem exists_renderMembers (member : List Char × Document)
    (members : List (List Char × Document)) :
    ∃ more, renderMembers (member :: members) = '"' :: more := by
  obtain ⟨key, value⟩ := member
  cases members with
  | nil => exact ⟨_, rfl⟩
  | cons next members => exact ⟨_, rfl⟩

mutual

/-- A sound document is read back from its text. -/
theorem readValue_render : (d : Document) → d.Sound → ∀ fuel rest, 2 * d.render.length ≤ fuel →
    Delimited rest → readValue fuel (d.render ++ rest) = (d, some rest)
  | null, _, fuel + 1, rest, _, _ => by
      simp [render, readValue, skipBlanks_cons, isJsonBlank, readScalar, readLiteral]
  | bool true, _, fuel + 1, rest, _, _ => by
      simp [render, readValue, skipBlanks_cons, isJsonBlank, readScalar, readLiteral]
  | bool false, _, fuel + 1, rest, _, _ => by
      simp [render, readValue, skipBlanks_cons, isJsonBlank, readScalar, readLiteral]
  | number spelling, ⟨s, hs, heq⟩, fuel + 1, rest, _, hrest => by
      subst heq
      exact s.readValue_text hs hrest fuel
  | string spelling, ⟨cs, heq⟩, fuel + 1, rest, _, _ => by
      subst heq
      simp [render, quote, readValue, skipBlanks_cons, isJsonBlank, readString, scanString_escape]
  | array items ending, ⟨hclosed, hitems⟩, fuel + 1, rest, hfuel, _ => by
      subst hclosed
      rw [render] at hfuel ⊢
      simp only [List.length_cons, List.length_append, List.length_nil] at hfuel
      cases items with
      | nil => simp [renderItems, readValue, skipBlanks_cons, isJsonBlank]
      | cons item items =>
          obtain ⟨c, more, hrender, hblank, hbracket⟩ := exists_renderItems hitems
          have hread := readItems_render (item :: items) hitems (by simp) fuel rest (by omega)
          have hskip : skipBlanks (c :: (more ++ ']' :: rest)) = _ := skipBlanks_cons hblank
          rw [hrender, List.cons_append] at hread
          rw [hrender]
          simp [readValue, skipBlanks_cons, isJsonBlank, hskip, hbracket, hread]
  | object members ending, ⟨hclosed, hmembers⟩, fuel + 1, rest, hfuel, _ => by
      subst hclosed
      rw [render] at hfuel ⊢
      simp only [List.length_cons, List.length_append, List.length_nil] at hfuel
      cases members with
      | nil => simp [renderMembers, readValue, skipBlanks_cons, isJsonBlank]
      | cons member members =>
          obtain ⟨more, hrender⟩ := exists_renderMembers member members
          have hread := readMembers_render (member :: members) hmembers (by simp) fuel rest
            more hrender (by omega)
          rw [hrender] at ⊢
          simp [readValue, skipBlanks_cons, isJsonBlank, hread]
  | d, h, 0, rest, hfuel, _ => by
      obtain ⟨c, more, hrender, -⟩ := h.exists_render
      simp [hrender] at hfuel

/-- Sound items are read back up to the closing bracket. -/
theorem readItems_render : (items : List Document) → SoundItems items → items ≠ [] →
    ∀ fuel rest, 2 * (renderItems items).length + 1 ≤ fuel →
      readItems fuel (renderItems items ++ ']' :: rest) = (items, .closed, some rest)
  | [item], ⟨hitem, _⟩, _, fuel + 1, rest, hfuel => by
      rw [renderItems] at hfuel ⊢
      have hread := readValue_render item hitem fuel (']' :: rest) (by omega)
        (.cons (by simp))
      rw [readItems, hread]
      simp [skipBlanks_cons, isJsonBlank]
  | item :: next :: items, ⟨hitem, hitems⟩, _, fuel + 1, rest, hfuel => by
      have hcons : renderItems (item :: next :: items) =
          item.render ++ ',' :: renderItems (next :: items) := renderItems.eq_3 _ _ (by simp)
      rw [hcons] at hfuel ⊢
      simp only [List.length_cons, List.length_append] at hfuel
      have hread := readValue_render item hitem fuel
        (',' :: (renderItems (next :: items) ++ ']' :: rest)) (by omega) (.cons (by simp))
      obtain ⟨c, more, hrender, hblank, hbracket⟩ := exists_renderItems hitems
      have hrest := readItems_render (next :: items) hitems (by simp) fuel rest (by omega)
      have hskip : skipBlanks (c :: (more ++ ']' :: rest)) = _ := skipBlanks_cons hblank
      rw [hrender, List.cons_append] at hread hrest
      rw [List.append_assoc, List.cons_append, hrender, List.cons_append, readItems, hread]
      simp [skipBlanks_cons, isJsonBlank, hskip, hbracket, hrest]

/-- Sound members are read back from behind the first quote up to the closing brace. -/
theorem readMembers_render : (members : List (List Char × Document)) → SoundMembers members →
    members ≠ [] → ∀ fuel rest more, renderMembers members = '"' :: more →
      2 * (renderMembers members).length + 1 ≤ fuel →
      readMembers fuel (more ++ '}' :: rest) = (members, .closed, some rest)
  | [(key, value)], ⟨⟨cs, hkey⟩, hvalue, _⟩, _, fuel + 1, rest, more, hrender, hfuel => by
      subst hkey
      rw [hrender] at hfuel
      rw [renderMembers] at hrender
      obtain rfl : Text.escape cs ++ '"' :: ':' :: value.render = more := by
        simpa [quote] using hrender
      simp only [List.length_cons, List.length_append] at hfuel
      have hread := readValue_render value hvalue fuel ('}' :: rest) (by omega)
        (.cons (by simp))
      have hscan := scanString_escape cs (':' :: (value.render ++ '}' :: rest))
      simp [readMembers, hscan, skipBlanks_cons, isJsonBlank, hread]
  | (key, value) :: next :: members, ⟨⟨cs, hkey⟩, hvalue, hmembers⟩, _, fuel + 1, rest, more,
      hrender, hfuel => by
      subst hkey
      obtain ⟨others, hothers⟩ := exists_renderMembers next members
      have hcons : renderMembers ((Text.escape cs, value) :: next :: members) =
          quote (Text.escape cs) ++ ':' :: (value.render ++ ',' :: '"' :: others) := by
        rw [← hothers]
        exact renderMembers.eq_3 _ _ _ (by simp)
      rw [hrender] at hfuel
      obtain rfl :
          Text.escape cs ++ '"' :: ':' :: (value.render ++ ',' :: '"' :: others) = more := by
        rw [hcons] at hrender
        simpa [quote] using hrender
      simp only [List.length_cons, List.length_append] at hfuel
      have hread := readValue_render value hvalue fuel (',' :: '"' :: (others ++ '}' :: rest))
        (by omega) (.cons (by simp))
      have hrest := readMembers_render (next :: members) hmembers (by simp) fuel rest others hothers
        (by simp only [hothers, List.length_cons]; omega)
      have hscan := scanString_escape cs
        (':' :: (value.render ++ ',' :: '"' :: (others ++ '}' :: rest)))
      simp [readMembers, hscan, skipBlanks_cons, isJsonBlank, hread, hrest]

end

/-- **Reading inverts writing.** -/
theorem read_render {d : Document} (h : d.Sound) : Document.read d.render = (d, some []) := by
  have hread := readValue_render d h (2 * d.render.length + 2) [] (by omega) (by simp [Delimited])
  rwa [List.append_nil] at hread

/-- Sound documents are told apart by their texts. -/
theorem eq_of_render_eq {d other : Document} (h : d.Sound) (hother : other.Sound)
    (heq : d.render = other.render) : d = other := by
  have hread := read_render h
  rw [heq, read_render hother] at hread
  exact (congrArg Prod.fst hread).symm

end Document

end HybridRetrieval.Json
