import HybridRetrieval.Proofs.Embedding.Bytes
import HybridRetrieval.Proofs.Node.NestingLimit
import HybridRetrieval.Proofs.Store.Hits
import HybridRetrieval.Proofs.Store.Statement
/-!
# What a dense query finds

On a stock the distances of the rows are those of the embeddings of the items
(`distanceFrom_ofItem`), so the hits are the nearest of the items that the filters admit
(`denseHits_ofItem`).  A search fails exactly if it lists a row that cannot be given back
(`denseHits_ok_iff`).  A query comes to the search unless its filters are too many for one statement
(`query_dense`, `query_dense_of_not_accepted`).
-/

namespace HybridRetrieval

/-- How far the embedding of an item is from another one. -/
def Item.distanceTo (embedding : List Single) (item : Item) : Single :=
  Embedding.cosineDistance item.embedding embedding

/-- The similarity that stands for a distance. -/
def similarityFor (distance : Single) : Single := (Double.one - distance.toDouble).toSingle

namespace Store

/-- The distance of a row is that of the embedding of its item. -/
theorem distanceFrom_ofItem (embedding : List Single) (item : Item) :
    distanceFrom embedding (DataRow.ofItem item) = .ok (item.distanceTo embedding) := by
  unfold distanceFrom Item.distanceTo
  rw [← Embedding.decode_encode item.embedding]
  simp [DataRow.ofItem, DataRow.blobCell, Cell.blob?, Embedding.decode_encode, bind, Except.bind,
    pure, Except.pure]

/-- A distance has a similarity if it is a number. -/
theorem similarityOf_eq_ok_iff {distance y : Single} :
    similarityOf distance = .ok y ↔ distance.isNaN = false ∧ similarityFor distance = y := by
  unfold similarityOf similarityFor
  cases distance.isNaN <;> simp

/-- The order of distances, those that are not numbers in front. -/
def distanceKey (distance : Single) : Int :=
  if distance.isNaN then -(2 ^ 32) else distance.rank

theorem distanceLE_eq_distanceKey (a b : Single) :
    distanceLE a b = decide (distanceKey a ≤ distanceKey b) := by
  have hbounds : ∀ x : Single, -(2 ^ 32) < x.rank := by
    intro x
    have hweight : BinaryFormat.single.signWeight = 2 ^ 31 := by decide
    have hmagnitude : BinaryFormat.single.magnitude x.bits.toNat < 2 ^ 31 := by
      rw [BinaryFormat.magnitude, hweight]
      exact Nat.mod_lt _ (by decide)
    simp only [Single.rank]
    split <;> omega
  have ha := hbounds a
  have hb := hbounds b
  unfold distanceLE distanceKey
  cases a.isNaN <;> cases b.isNaN <;> simp <;> omega

section Stock

variable {embedding : List Single} {items : List Item} {filters : List Filter}
  (hfilters : Filter.Apply filters items) (limit : Nat)
include hfilters

/-- The rows that a dense search lists are those of the best of the items that the filters admit. -/
theorem denseHits_eq_toHits (key : Item → Int)
    (hkey : ∀ x ∈ items.filter (Item.isAdmitted filters),
      ∀ y ∈ items.filter (Item.isAdmitted filters),
        distanceLE (x.distanceTo embedding) (y.distanceTo embedding) = decide (key x ≤ key y)) :
    denseHits embedding limit filters (items.map DataRow.ofItem) =
      toHits similarityOf ((bestOf key limit (items.filter (Item.isAdmitted filters))).map
        fun item => (DataRow.ofItem item, item.distanceTo embedding)) := by
  by_cases hzero : limit = 0
  · simp [denseHits, bestOf, hzero, toHits, pure, Except.pure]
  have hscored := scoreRows_ofItem hfilters (distanceFrom embedding)
    fun item _ => distanceFrom_ofItem embedding item
  simp only [denseHits, hzero, if_false, hscored, bind, Except.bind]
  rw [take_mergeSort_ofItem distanceLE key hkey]

/-- **Dense hits on a stock** are the nearest of the items that the filters admit. -/
theorem denseHits_ofItem (hread : ∀ item ∈ items, item.node.WithinDepth)
    (hnumber : ∀ item ∈ items.filter (Item.isAdmitted filters),
      (item.distanceTo embedding).isNaN = false) :
    denseHits embedding limit filters (items.map DataRow.ofItem) =
      .ok ((bestOf (fun item => (item.distanceTo embedding).rank) limit
        (items.filter (Item.isAdmitted filters))).map fun item =>
          (item.node.reread, similarityFor (item.distanceTo embedding))) := by
  rw [denseHits_eq_toHits hfilters limit fun item => (item.distanceTo embedding).rank]
  · refine toHits_ofItem ?_ ?_
    · exact fun item hitem => hread item (List.mem_of_mem_filter (mem_of_mem_bestOf hitem))
    · exact fun item hitem =>
        similarityOf_eq_ok_iff.mpr ⟨hnumber item (mem_of_mem_bestOf hitem), rfl⟩
  · intro x hx y hy
    simp [distanceLE, hnumber x hx, hnumber y hy]

/-- **A dense search succeeds exactly if all rows that it lists can be given back**: their nodes are
read back, and their distances are numbers.  Those that are not numbers are listed first. -/
theorem denseHits_ok_iff :
    (∃ hits, denseHits embedding limit filters (items.map DataRow.ofItem) = .ok hits) ↔
      ∀ item ∈ bestOf (fun item => distanceKey (item.distanceTo embedding)) limit
        (items.filter (Item.isAdmitted filters)),
          item.node.WithinDepth ∧ (item.distanceTo embedding).isNaN = false := by
  rw [denseHits_eq_toHits hfilters limit (fun item => distanceKey (item.distanceTo embedding))
    fun x _ y _ => distanceLE_eq_distanceKey _ _]
  constructor
  · rintro ⟨hits, hhits⟩ item hitem
    obtain ⟨hnode, y, hy⟩ := exists_of_toHits hhits item hitem
    exact ⟨DataRow.toNode_ofItem_iff.mp hnode, (similarityOf_eq_ok_iff.mp hy).1⟩
  · intro h
    exact ⟨_, toHits_ofItem (fun item hitem => (h item hitem).1)
      fun item hitem => similarityOf_eq_ok_iff.mpr ⟨(h item hitem).2, rfl⟩⟩

end Stock

section Query

variable {s : Store} {q : Query} (hmode : q.mode = .dense) {embedding : List Single}
  (hembedding : q.embedding = some embedding) (hlength : embedding.length = s.params.embedDim)
  (hkeys : Predicate.checkKeys q.filterList = .ok ()) {db : Database}
include hmode hembedding hlength hkeys

/-- A dense query for an embedding of the right length answers with the hits in the data table. -/
theorem query_dense (hsize : (StatementSize.dense q.filterList).Accepted) {stored : List DataRow}
    (hdata : db.table? s.names.data = some (.data stored)) :
    s.query q (some db) =
      (denseHits embedding q.topK q.filterList stored).map QueryResult.ofHits := by
  simp only [query, hmode, Query.requireEmbedding, hembedding, denseQuery, checkEmbedding, hlength,
    if_true, hkeys, Connection.database, StatementSize.prepare_of_accepted hsize,
    Database.dataRows_eq_ok hdata, bind, Except.bind]
  cases denseHits embedding q.topK q.filterList stored <;> rfl

/-- A dense query with more filters than fit into a statement fails. -/
theorem query_dense_of_not_accepted (hsize : ¬ (StatementSize.dense q.filterList).Accepted) :
    s.query q (some db) = .error .storage := by
  simp only [query, hmode, Query.requireEmbedding, hembedding, denseQuery, checkEmbedding, hlength,
    if_true, hkeys, Connection.database, StatementSize.prepare_of_not_accepted hsize, bind,
    Except.bind]

end Query

end Store

end HybridRetrieval
