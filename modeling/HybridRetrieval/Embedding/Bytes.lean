import HybridRetrieval.Number.Single
/-!
# Embeddings as bytes

An embedding is stored as the bits of its numbers, four bytes each, least significant byte first.
Bytes after the last whole group of four are dropped on reading.
-/

namespace HybridRetrieval.Embedding

/-- The four bytes of a word, least significant first. -/
def wordBytes (w : UInt32) : List UInt8 :=
  [w.toUInt8, (w >>> 8).toUInt8, (w >>> 16).toUInt8, (w >>> 24).toUInt8]

/-- The word of four bytes, least significant first. -/
def ofWordBytes (a b c d : UInt8) : UInt32 :=
  a.toUInt32 ||| (b.toUInt32 <<< 8) ||| (c.toUInt32 <<< 16) ||| (d.toUInt32 <<< 24)

/-- The bytes of an embedding. -/
def encode (embedding : List Single) : List UInt8 := embedding.flatMap fun x => wordBytes x.bits

/-- The embedding of bytes. -/
def decode : List UInt8 → List Single
  | a :: b :: c :: d :: rest => ⟨ofWordBytes a b c d⟩ :: decode rest
  | _ => []

end HybridRetrieval.Embedding
