import HybridRetrieval.Query.Basic
/-!
# Fusion of two results

Dense hits come first and sparse hits follow; a node that appeared already keeps its first place
and similarity.
-/

namespace HybridRetrieval

/-- The hits without those whose node appeared before. -/
def firstHits : List Hit → List Hit
  | [] => []
  | hit :: rest => hit :: (firstHits rest).filter fun later => later.1.id ≠ hit.1.id

/-- The hits of both results, each node once. -/
def fuse (dense sparse : QueryResult) : QueryResult :=
  .ofHits (firstHits (dense.hits ++ sparse.hits))

end HybridRetrieval
