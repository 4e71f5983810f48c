import HybridRetrieval.Embedding.Bytes
import Mathlib.Algebra.Ring.Nat
import Mathlib.Logic.ExistsUnique
/-!
# Embeddings and their bytes

A word is put together from its four bytes (`ofWordBytes_wordBytes`), so an embedding is what its
bytes are decoded to (`decode_encode`), whatever patterns it has.

The other way round the four bytes are digits of a number, the first one the lowest
(`toNat_ofWordBytes`), and cutting the number up gives them back (`wordBytes_ofWordBytes`).  So what
is decoded is encoded as the bytes that were there, up to the last whole group of four
(`encode_decode`), and bytes in whole groups belong to exactly one embedding (`encode_laws`).
-/

namespace HybridRetrieval.Embedding

/-- A byte that is cut out of a word and put back in its place has the bits of that place. -/
theorem getLsbD_byte (v : BitVec 32) (place : Nat) {i : Nat} (hi : i < 32) :
    (((v >>> place).setWidth 8).setWidth 32 <<< place).getLsbD i =
      (decide (place ≤ i ∧ i < place + 8) && v.getLsbD i) := by
  simp only [BitVec.getLsbD_shiftLeft, BitVec.getLsbD_setWidth, BitVec.getLsbD_ushiftRight]
  by_cases hbelow : i < place
  · simp [hbelow, show ¬ place ≤ i by omega]
  · have hsame : place + (i - place) = i := by omega
    have hbyte : i - place < 8 ↔ i < place + 8 := by omega
    simp [hbelow, hsame, hbyte, hi, show place ≤ i by omega, show i - place < 32 by omega]

/-- **A word is put together from its bytes.** -/
theorem ofWordBytes_wordBytes (w : UInt32) :
    ofWordBytes w.toUInt8 (w >>> 8).toUInt8 (w >>> 16).toUInt8 (w >>> 24).toUInt8 = w := by
  apply UInt32.toBitVec_inj.mp
  apply BitVec.eq_of_getLsbD_eq
  intro i hi
  have hfirst : ((w.toBitVec.setWidth 8).setWidth 32).getLsbD i =
      (decide (0 ≤ i ∧ i < 0 + 8) && w.toBitVec.getLsbD i) := by
    simpa using getLsbD_byte w.toBitVec 0 hi
  have h8 : (8 : UInt32).toBitVec % 32 = 8#32 := rfl
  have h16 : (16 : UInt32).toBitVec % 32 = 16#32 := rfl
  have h24 : (24 : UInt32).toBitVec % 32 = 24#32 := rfl
  simp only [ofWordBytes, UInt32.toBitVec_or, UInt32.toBitVec_shiftLeft,
    UInt32.toBitVec_shiftRight, UInt8.toBitVec_toUInt32, UInt32.toBitVec_toUInt8, h8, h16, h24,
    BitVec.shiftLeft_eq', BitVec.ushiftRight_eq', BitVec.toNat_ofNat, Nat.reducePow, Nat.reduceMod,
    BitVec.getLsbD_or, hfirst, getLsbD_byte _ _ hi]
  -- one of the four places has the bit
  have hplace : i < 8 ∨ (8 ≤ i ∧ i < 16) ∨ (16 ≤ i ∧ i < 24) ∨ 24 ≤ i := by omega
  rcases hplace with h | h | h | h <;> cases w.toBitVec.getLsbD i <;> simp <;> omega

/-- **An embedding is read back from its bytes.** -/
theorem decode_encode (embedding : List Single) : decode (encode embedding) = embedding := by
  induction embedding with
  | nil => rfl
  | cons x rest ih =>
      have hword : encode (x :: rest) = wordBytes x.bits ++ encode rest := List.flatMap_cons
      rw [hword]
      simp only [wordBytes, List.cons_append, List.nil_append, decode, ofWordBytes_wordBytes, ih]

/-! ## Digits -/

/-- Bits above all those of a number add to it. -/
theorem or_shiftLeft {low place : Nat} (h : low < 2 ^ place) (high : Nat) :
    low ||| high <<< place = low + 2 ^ place * high := by
  rw [Nat.or_comm, ← Nat.shiftLeft_add_eq_or_of_lt h, Nat.shiftLeft_eq, Nat.mul_comm, Nat.add_comm]

/-- A byte keeps its bits when it is put in its place in a word. -/
theorem toNat_shiftLeft_byte (x : UInt8) {place : Nat} (h : place ≤ 24) :
    x.toNat <<< place % 2 ^ 32 = x.toNat <<< place := by
  have hpow : 2 ^ place ≤ 2 ^ 24 := Nat.pow_le_pow_right (by decide) h
  have hfits : x.toNat * 2 ^ place < 2 ^ 8 * 2 ^ 24 :=
    Nat.mul_lt_mul_of_lt_of_le x.toNat_lt hpow (by decide)
  rw [Nat.shiftLeft_eq]
  exact Nat.mod_eq_of_lt hfits

/-- **The number that four bytes stand for** has the first of them as its lowest digit. -/
theorem toNat_ofWordBytes (a b c d : UInt8) :
    (ofWordBytes a b c d).toNat =
      a.toNat + 2 ^ 8 * b.toNat + 2 ^ 16 * c.toNat + 2 ^ 24 * d.toNat := by
  have ha := a.toNat_lt
  have hb := b.toNat_lt
  have hc := c.toNat_lt
  have h8 : (8 : UInt32).toNat % 32 = 8 := rfl
  have h16 : (16 : UInt32).toNat % 32 = 16 := rfl
  have h24 : (24 : UInt32).toNat % 32 = 24 := rfl
  have htwo : a.toNat + 2 ^ 8 * b.toNat < 2 ^ 16 := by omega
  have hthree : a.toNat + 2 ^ 8 * b.toNat + 2 ^ 16 * c.toNat < 2 ^ 24 := by omega
  simp only [ofWordBytes, UInt32.toNat_or, UInt32.toNat_shiftLeft, UInt8.toNat_toUInt32, h8, h16,
    h24]
  rw [toNat_shiftLeft_byte b (by decide), toNat_shiftLeft_byte c (by decide),
    toNat_shiftLeft_byte d (by decide), or_shiftLeft ha, or_shiftLeft htwo, or_shiftLeft hthree]

/-- A byte cut out of a word is a digit of its number. -/
theorem toUInt8_shiftRight (w : UInt32) {place : Nat} (h : place < 32) :
    (w >>> UInt32.ofNat place).toUInt8 = UInt8.ofNat (w.toNat / 2 ^ place) := by
  apply UInt8.toNat_inj.mp
  simp [Nat.shiftRight_eq_div_pow, Nat.mod_eq_of_lt h]

/-- **The bytes of a word** are the digits of its number, the lowest first. -/
theorem getElem?_wordBytes (w : UInt32) {k : Nat} (hk : k < 4) :
    (wordBytes w)[k]? = some (UInt8.ofNat (w.toNat / 2 ^ (8 * k))) := by
  match k, hk with
  | 0, _ => simp [wordBytes]
  | 1, _ => exact congrArg some (toUInt8_shiftRight w (by decide))
  | 2, _ => exact congrArg some (toUInt8_shiftRight w (by decide))
  | 3, _ => exact congrArg some (toUInt8_shiftRight w (by decide))

/-- **Bytes are read back from the word** that is put together from them. -/
theorem wordBytes_ofWordBytes (a b c d : UInt8) :
    wordBytes (ofWordBytes a b c d) = [a, b, c, d] := by
  have ha := a.toNat_lt
  have hb := b.toNat_lt
  have hc := c.toNat_lt
  have hd := d.toNat_lt
  have hdigit : ∀ {k : Nat} (x : UInt8), k < 4 →
      (ofWordBytes a b c d).toNat / 2 ^ (8 * k) % 2 ^ 8 = x.toNat →
      (wordBytes (ofWordBytes a b c d))[k]? = some x := by
    intro k x hk h
    rw [getElem?_wordBytes _ hk]
    apply congrArg some
    apply UInt8.toNat_inj.mp
    rwa [UInt8.toNat_ofNat']
  apply List.ext_getElem?
  intro k
  match k with
  | 0 => exact hdigit a (by decide) (by rw [toNat_ofWordBytes]; omega)
  | 1 => exact hdigit b (by decide) (by rw [toNat_ofWordBytes]; omega)
  | 2 => exact hdigit c (by decide) (by rw [toNat_ofWordBytes]; omega)
  | 3 => exact hdigit d (by decide) (by rw [toNat_ofWordBytes]; omega)
  | k + 4 => rfl

/-! ## Embeddings of bytes -/

theorem encode_cons (x : Single) (rest : List Single) :
    encode (x :: rest) = wordBytes x.bits ++ encode rest := List.flatMap_cons

/-- There are four bytes for each number. -/
theorem length_encode (embedding : List Single) :
    (encode embedding).length = 4 * embedding.length := by
  induction embedding with
  | nil => rfl
  | cons x rest ih =>
      have hword : (wordBytes x.bits).length = 4 := rfl
      rw [encode_cons, List.length_append, ih, hword, List.length_cons]
      omega

/-- **What is decoded is encoded as the bytes** up to the last whole group of four. -/
theorem encode_decode (bytes : List UInt8) :
    encode (decode bytes) = bytes.take (4 * (bytes.length / 4)) := by
  fun_induction decode bytes with
  | case1 a b c d rest ih =>
      have hgroups : 4 * ((a :: b :: c :: d :: rest).length / 4) = 4 * (rest.length / 4) + 4 := by
        simp only [List.length_cons]
        omega
      rw [encode_cons, wordBytes_ofWordBytes, ih, hgroups]
      rfl
  | case2 bytes hshort =>
      have hlength : bytes.length / 4 = 0 := by
        match bytes, hshort with
        | [], _ | [_], _ | [_, _], _ | [_, _, _], _ => exact Nat.div_eq_of_lt (by simp)
        | a :: b :: c :: d :: rest, hshort => exact absurd rfl (hshort a b c d rest)
      rw [hlength]
      rfl

/-- No two embeddings have the same bytes. -/
theorem encode_injective : Function.Injective encode :=
  Function.LeftInverse.injective decode_encode

/-- The bytes of the number at a place stand at four times the place. -/
theorem getElem?_encode (embedding : List Single) (i : Nat) {k : Nat} (hk : k < 4) :
    (encode embedding)[4 * i + k]? =
      embedding[i]?.map fun x => UInt8.ofNat (x.bits.toNat / 2 ^ (8 * k)) := by
  induction embedding generalizing i with
  | nil => rfl
  | cons x rest ih =>
      have hword : (wordBytes x.bits).length = 4 := rfl
      rw [encode_cons]
      cases i with
      | zero =>
          rw [Nat.mul_zero, Nat.zero_add, List.getElem?_append_left (hword.symm ▸ hk),
            getElem?_wordBytes _ hk]
          rfl
      | succ i =>
          have hplace : 4 * (i + 1) + k - 4 = 4 * i + k := by omega
          rw [List.getElem?_append_right (by omega), hword, hplace, ih]
          rfl

/-- **The format of embeddings.**  Every embedding is read back from its bytes pattern by pattern,
and has four bytes for each number.  Whatever bytes are decoded, they are encoded again as they
were, but for a partial group at the end.  So no two embeddings have the same bytes, and exactly the
bytes in whole groups of four belong to an embedding, and to one only.  The bytes of a number stand
together in its place, the lowest digit first. -/
theorem encode_laws :
    (∀ embedding, decode (encode embedding) = embedding ∧
      (encode embedding).length = 4 * embedding.length) ∧
    (∀ bytes, encode (decode bytes) = bytes.take (4 * (bytes.length / 4))) ∧
    Function.Injective encode ∧
    (∀ bytes : List UInt8, 4 ∣ bytes.length ↔ ∃! embedding, encode embedding = bytes) ∧
    ∀ embedding i k, k < 4 → (encode embedding)[4 * i + k]? =
      embedding[i]?.map fun x => UInt8.ofNat (x.bits.toNat / 2 ^ (8 * k)) := by
  refine ⟨fun embedding => ⟨decode_encode embedding, length_encode embedding⟩, encode_decode,
    encode_injective, fun bytes => ⟨fun hwhole => ?_, ?_⟩,
    fun embedding i k hk => getElem?_encode embedding i hk⟩
  · have hall : encode (decode bytes) = bytes := by
      rw [encode_decode, Nat.mul_div_cancel' hwhole, List.take_length]
    exact ⟨decode bytes, hall, fun other hother => encode_injective (hother.trans hall.symm)⟩
  · rintro ⟨embedding, rfl, -⟩
    exact ⟨embedding.length, length_encode embedding⟩

/-- A pattern with a payload that is not a number, a zero and an infinity with their signs. -/
theorem encode_laws_patterns :
    decode (encode [⟨0x7fc00001⟩, .negZero, ⟨0xff800000⟩]) =
        [⟨0x7fc00001⟩, .negZero, ⟨0xff800000⟩] ∧
      (∃! embedding, encode embedding = [0x01, 0x00, 0xc0, 0x7f, 0x00, 0x00, 0x00, 0x80]) ∧
      (encode [⟨0x7fc00001⟩, .negZero, ⟨0xff800000⟩])[4 * 0 + 2]? = some 0xc0 := by
  obtain ⟨hread, -, -, hwhole, hplace⟩ := encode_laws
  exact ⟨(hread _).1, (hwhole _).mp (by decide), (hplace _ 0 2 (by decide)).trans (by decide)⟩

end HybridRetrieval.Embedding
