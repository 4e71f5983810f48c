import HybridRetrieval.Filter.Label
import Mathlib.Data.List.TakeWhile
/-!
# The bytes of characters

What reading a label needs of UTF-8: a character is one byte below 128, or a leading byte and up to
three that continue it (`bytes_singleton_cases`).  So reading gives the character back
(`readCode_bytes`), and where a leading byte stands, a character begins (`exists_char_of_suffix`).
-/

namespace HybridRetrieval

/-- A text without NUL is taken whole. -/
theorem takeWhile_of_nul_notMem {cs : List Char} (h : '\x00' ∉ cs) :
    cs.takeWhile (· ≠ '\x00') = cs := by
  refine List.takeWhile_eq_self_iff.mpr fun c hc => decide_eq_true ?_
  rintro rfl
  exact h hc

namespace Label

theorem bytes_append (cs ds : List Char) : bytes (cs ++ ds) = bytes cs ++ bytes ds := by
  simp [bytes]

theorem bytes_cons (c : Char) (cs : List Char) : bytes (c :: cs) = bytes [c] ++ bytes cs :=
  bytes_append [c] cs

/-- What the first byte of a character holds of its code. -/
theorem leadBits_of_lead (bits : Nat) :
    (bits < 32 → leadBits (bits + 0xc0) = bits) ∧ (bits < 16 → leadBits (bits + 0xe0) = bits) ∧
      (bits < 8 → leadBits (bits + 0xf0) = bits) := by
  simp only [leadBits]
  grind

/-- **The bytes of a character**: its code if that is below 128, else a leading byte and those that
continue it, from which the code is put together. -/
theorem bytes_singleton_cases (c : Char) :
    (c.toNat < 0x80 ∧ bytes [c] = [c.toNat]) ∨
    (0x80 ≤ c.toNat ∧ ∃ lead tail, bytes [c] = lead :: tail ∧ (0xc0 ≤ lead ∧ lead < 0xf8) ∧
      tail.length ≤ 3 ∧ (∀ b ∈ tail, isContinuation b = true) ∧
      tail.foldl (fun n b => 64 * n + b % 64) (leadBits lead) = c.toNat) := by
  have hbound : c.toNat < 0x110000 := by
    have hvalid := c.valid
    simp only [UInt32.isValidChar, Nat.isValidChar] at hvalid
    change c.val.toNat < _
    omega
  have hcontinues : ∀ m, isContinuation (m % 64 + 128) = true := by
    intro m
    simp only [isContinuation, beq_iff_eq]
    omega
  have hbytes : bytes [c] = (String.utf8EncodeChar c).map (·.toNat) := by simp [bytes]
  have hval : c.val.toNat = c.toNat := rfl
  rw [hbytes]
  unfold String.utf8EncodeChar
  simp only [hval]
  generalize c.toNat = n at hbound ⊢
  split
  · refine .inl ⟨by omega, ?_⟩
    simp only [List.map_cons, List.map_nil, UInt8.toNat_ofNat']
    rw [Nat.mod_eq_of_lt (by omega)]
  refine .inr ⟨by omega, ?_⟩
  split
  · refine ⟨n / 64 % 32 + 192, [n % 64 + 128], ?_, by omega, by simp, by simp [hcontinues], ?_⟩
    · simp; omega
    · rw [(leadBits_of_lead _).1 (by omega)]
      simp only [List.foldl_cons, List.foldl_nil]
      omega
  split
  · refine ⟨n / 4096 % 16 + 224, [n / 64 % 64 + 128, n % 64 + 128], ?_, by omega, by simp,
      by simp [hcontinues], ?_⟩
    · simp; omega
    · rw [(leadBits_of_lead _).2.1 (by omega)]
      simp only [List.foldl_cons, List.foldl_nil]
      omega
  · refine ⟨n / 262144 % 8 + 240, [n / 4096 % 64 + 128, n / 64 % 64 + 128, n % 64 + 128], ?_,
      by omega, by simp, by simp [hcontinues], ?_⟩
    · simp; omega
    · rw [(leadBits_of_lead _).2.2 (by omega)]
      simp only [List.foldl_cons, List.foldl_nil]
      omega

/-- A character's bytes begin with one that does not continue another character. -/
theorem exists_bytes_cons (c : Char) (cs : List Char) :
    ∃ b rest, bytes (c :: cs) = b :: rest ∧ isContinuation b = false := by
  rw [bytes_cons]
  obtain ⟨hsmall, hbytes⟩ | ⟨-, lead, tail, hbytes, hlead, -⟩ := bytes_singleton_cases c
  · refine ⟨c.toNat, bytes cs, by rw [hbytes]; rfl, ?_⟩
    rw [isContinuation, beq_eq_false_iff_ne]
    omega
  · refine ⟨lead, tail ++ bytes cs, by rw [hbytes]; rfl, ?_⟩
    rw [isContinuation, beq_eq_false_iff_ne]
    omega

/-- No byte behind a character continues it. -/
theorem takeWhile_continuations (tail : List Nat) (cs : List Char)
    (hlength : tail.length ≤ 3) (htail : ∀ b ∈ tail, isContinuation b = true) :
    ((tail ++ bytes cs).take 3).takeWhile isContinuation = tail := by
  rw [List.take_append, List.take_of_length_le hlength, List.takeWhile_append_of_pos htail]
  suffices h : ((bytes cs).take (3 - tail.length)).takeWhile isContinuation = [] by
    rw [h, List.append_nil]
  cases cs with
  | nil => simp [bytes]
  | cons c cs =>
      obtain ⟨b, rest, hbytes, hb⟩ := exists_bytes_cons c cs
      rw [hbytes]
      cases 3 - tail.length with
      | zero => rfl
      | succ more => rw [List.take_succ_cons, List.takeWhile_cons_of_neg (by simp [hb])]

/-- **A character is read from its bytes.** -/
theorem readCode_bytes {c : Char} {cs : List Char} {b : Nat} {rest : List Nat}
    (h : bytes (c :: cs) = b :: rest) : readCode b rest = (c.toNat, bytes cs) := by
  rw [bytes_cons] at h
  obtain ⟨hsmall, hbytes⟩ | ⟨-, lead, tail, hbytes, hlead, hlength, htail, hcode⟩ :=
    bytes_singleton_cases c
  · rw [hbytes, List.singleton_append] at h
    obtain ⟨rfl, rfl⟩ := List.cons.inj h
    rw [readCode, if_pos (by omega)]
  · rw [hbytes, List.cons_append] at h
    obtain ⟨rfl, rfl⟩ := List.cons.inj h
    rw [readCode, if_neg (by omega)]
    simp only [takeWhile_continuations tail cs hlength htail, hcode, List.drop_left]

/-- **Where no byte continues a character, one begins**: a suffix of a text's bytes that starts so
is made of whole characters. -/
theorem exists_char_of_suffix {cs : List Char} {b : Nat} {rest : List Nat}
    (h : b :: rest <:+ bytes cs) (hb : isContinuation b = false) :
    ∃ c ds, b :: rest = bytes (c :: ds) := by
  induction cs with
  | nil => simp [bytes] at h
  | cons c cs ih =>
      obtain ⟨front, hfront⟩ := h
      rw [bytes_cons] at hfront
      rcases List.append_eq_append_iff.mp hfront with ⟨split, hchar, hrest⟩ | ⟨split, -, hrest⟩
      · cases split with
        | nil => exact ih ⟨[], hrest⟩
        | cons first split =>
            obtain ⟨rfl, -⟩ := List.cons.inj hrest
            cases front with
            | nil => exact ⟨c, cs, by rw [bytes_cons, hrest, hchar, List.nil_append]⟩
            | cons other front =>
                -- what begins inside a character continues it
                have hinside : b ∈ (bytes [c]).tail := by simp [hchar]
                obtain ⟨-, hbytes⟩ | ⟨-, lead, tail, hbytes, -, -, htail, -⟩ :=
                  bytes_singleton_cases c
                · simp [hbytes] at hinside
                · rw [hbytes] at hinside
                  exact absurd (htail b hinside) (by simp [hb])
      · exact ih ⟨split, hrest.symm⟩

end Label

end HybridRetrieval
