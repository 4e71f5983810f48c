import HybridRetrieval.Number.Single
/-!
# Cosine similarity

Sums run from left to right and start at the negative zero.  Vectors of different lengths, empty
vectors and zero vectors have similarity zero.
-/

namespace HybridRetrieval.Embedding

/-- The sum from left to right. -/
def sum (xs : List Single) : Single := xs.foldl (· + ·) .negZero

def dotProduct (a b : List Single) : Single := sum (List.zipWith (· * ·) a b)

def norm (a : List Single) : Single := (dotProduct a a).sqrt

def cosineSimilarity (a b : List Single) : Single :=
  if a.length ≠ b.length ∨ a.isEmpty then .zero
  else if (norm a).isZero ∨ (norm b).isZero then .zero
  else dotProduct a b / (norm a * norm b)

/-- One less the similarity. -/
def cosineDistance (a b : List Single) : Single := .one - cosineSimilarity a b

end HybridRetrieval.Embedding
