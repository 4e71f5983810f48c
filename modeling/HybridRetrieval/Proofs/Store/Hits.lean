import HybridRetrieval.Proofs.Filter.Rendering
import HybridRetrieval.Proofs.Node.ReadBack
import HybridRetrieval.Proofs.Query.Best
import HybridRetrieval.Proofs.Steps
import HybridRetrieval.Proofs.Store.Stock
import HybridRetrieval.Store.Search
/-!
# From a stock to the hits of a query

What both searches do to the rows of a stock, said about its items: the filters choose some of them
(`scoreRows_ofItem`), the best of them are listed (`take_mergeSort_ofItem`), and these become hits
with the nodes as they are read back (`toHits_ofItem`).  A result that comes about so is described
by `QueryResult.IsTop`.
-/

namespace HybridRetrieval

/-! ## Filters -/

/-- Whether metadata satisfies every one of the filters. -/
def Filter.admits (filters : List Filter) (metadata : Cell) : Bool :=
  filters.all fun f => decide (f.holds metadata = .ok true)

/-- Where the evaluation does not fail, it tells whether every filter is satisfied. -/
theorem Filter.allHold_eq_admits {filters : List Filter} {metadata : Cell} {b : Bool}
    (h : allHold filters metadata = .ok b) :
    allHold filters metadata = .ok (admits filters metadata) := by
  induction filters with
  | nil => rfl
  | cons f rest ih =>
      unfold allHold at h ⊢
      cases hf : f.holds metadata with
      | error e =>
          rw [hf] at h
          cases h
      | ok holds =>
          cases holds with
          | false => simp [admits, hf, bind, Except.bind, pure, Except.pure]
          | true =>
              simp only [hf, bind, Except.bind, if_true] at h ⊢
              rw [ih h]
              simp [admits, hf]

/-- Filters that are all satisfied hold together. -/
theorem Filter.allHold_of_forall {filters : List Filter} {metadata : Cell}
    (h : ∀ f ∈ filters, f.holds metadata = .ok true) : allHold filters metadata = .ok true := by
  induction filters with
  | nil => rfl
  | cons f rest ih =>
      have hf : f.holds metadata = .ok true := h f List.mem_cons_self
      have hrest := ih fun other hother => h other (List.mem_cons_of_mem _ hother)
      rw [allHold, hf]
      exact hrest

/-- Whether an item satisfies every one of the filters. -/
def Item.isAdmitted (filters : List Filter) (item : Item) : Bool :=
  Filter.admits filters (.text item.node.metadata.text)

/-- The filters make a predicate, which can be evaluated on every item. -/
structure Filter.Apply (filters : List Filter) (items : List Item) : Prop where
  renders : ∃ predicate, Predicate.render filters "d.metadata" = .ok predicate
  evaluates : ∀ item ∈ items, ∃ b, allHold filters (.text item.node.metadata.text) = .ok b

/-- No filter: every item is admitted. -/
theorem Filter.apply_nil (items : List Item) : Filter.Apply [] items :=
  ⟨⟨_, rfl⟩, fun _ _ => ⟨true, rfl⟩⟩

/-- Filters that apply to all items apply to some of them. -/
theorem Filter.Apply.of_subset {filters : List Filter} {items others : List Item}
    (h : Filter.Apply filters items) (hmem : ∀ item ∈ others, item ∈ items) :
    Filter.Apply filters others :=
  ⟨h.renders, fun item hitem => h.evaluates item (hmem item hitem)⟩

/-- Filters that make a predicate have keys that paths can select. -/
theorem Filter.Apply.checkKeys {filters : List Filter} {items : List Item}
    (h : Filter.Apply filters items) : Predicate.checkKeys filters = .ok () := by
  obtain ⟨predicate, hrender⟩ := h.renders
  exact (Predicate.render_eq_ok_iff.mp hrender).1

namespace Store

variable {α : Type} {items : List Item}

/-- **The rows that are scored** are those of the items that the filters admit. -/
theorem scoreRows_ofItem {filters : List Filter} (hfilters : Filter.Apply filters items)
    (score : DataRow → Except Error α) {scoreOf : Item → α}
    (hscore : ∀ item ∈ items, score (.ofItem item) = .ok (scoreOf item)) :
    scoreRows filters score (items.map DataRow.ofItem) =
      .ok ((items.filter (Item.isAdmitted filters)).map fun item =>
        (DataRow.ofItem item, scoreOf item)) := by
  have hevaluates := hfilters.evaluates
  clear hfilters
  induction items with
  | nil => rfl
  | cons item rest ih =>
      obtain ⟨b, hb⟩ := hevaluates item List.mem_cons_self
      have hholds : Filter.allHold filters (DataRow.ofItem item).metadata =
          .ok (item.isAdmitted filters) := Filter.allHold_eq_admits hb
      have hrest := ih (fun other hother => hscore other (List.mem_cons_of_mem _ hother))
        fun other hother => hevaluates other (List.mem_cons_of_mem _ hother)
      rw [List.map_cons, scoreRows, hholds, List.filter_cons]
      cases item.isAdmitted filters with
      | false => exact hrest
      | true =>
          simp only [bind, Except.bind, hscore item List.mem_cons_self, hrest, if_true]
          rfl

/-- **The rows of items become hits** with the nodes of the items, if these can be read back and
their scores have similarities. -/
theorem toHits_ofItem {similarity : α → Except Error Single} {scoreOf : Item → α}
    {similarityOf : Item → Single} (hread : ∀ item ∈ items, item.node.WithinDepth)
    (hsimilarity : ∀ item ∈ items, similarity (scoreOf item) = .ok (similarityOf item)) :
    toHits similarity (items.map fun item => (DataRow.ofItem item, scoreOf item)) =
      .ok (items.map fun item => (item.node.reread, similarityOf item)) := by
  induction items with
  | nil => rfl
  | cons item rest ih =>
      have hnode := DataRow.toNode_ofItem (hread item List.mem_cons_self)
      have hvalue := hsimilarity item List.mem_cons_self
      have hrest := ih (fun other hother => hread other (List.mem_cons_of_mem _ hother))
        fun other hother => hsimilarity other (List.mem_cons_of_mem _ hother)
      rw [List.map_cons, toHits]
      simp only [bind, Except.bind, hnode, hvalue, hrest]
      rfl

/-- Rows become hits only if all of them are read back and all scores have similarities. -/
theorem exists_of_toHits {similarity : α → Except Error Single} {scoreOf : Item → α}
    {hits : List Hit} (h : toHits similarity
      (items.map fun item => (DataRow.ofItem item, scoreOf item)) = .ok hits) :
    ∀ item ∈ items, (∃ node, (DataRow.ofItem item).toNode = .ok node) ∧
      ∃ y, similarity (scoreOf item) = .ok y := by
  induction items generalizing hits with
  | nil => simp
  | cons first rest ih =>
      obtain ⟨node, hnode, h⟩ := bind_eq_ok_iff.mp h
      obtain ⟨y, hy, h⟩ := bind_eq_ok_iff.mp h
      obtain ⟨more, hmore, -⟩ := bind_eq_ok_iff.mp h
      intro item hitem
      rcases List.mem_cons.mp hitem with rfl | hitem
      · exact ⟨⟨node, hnode⟩, y, hy⟩
      · exact ih hmore item hitem

/-- **The rows that are listed** are those of the best items, whichever order the scores are sorted
by. -/
theorem take_mergeSort_ofItem {scoreOf : Item → α} (le : α → α → Bool) (key : Item → Int)
    (hkey : ∀ x ∈ items, ∀ y ∈ items, le (scoreOf x) (scoreOf y) = decide (key x ≤ key y))
    (limit : Nat) :
    ((items.map fun item => (DataRow.ofItem item, scoreOf item)).mergeSort
        fun a b => le a.2 b.2).take limit =
      (bestOf key limit items).map fun item => (DataRow.ofItem item, scoreOf item) := by
  have hsorted : (items.map fun item => (DataRow.ofItem item, scoreOf item)).mergeSort
      (fun a b => le a.2 b.2) =
        (items.mergeSort fun x y => decide (key x ≤ key y)).map fun item =>
          (DataRow.ofItem item, scoreOf item) := by
    symm
    apply List.map_mergeSort
    exact fun x hx y hy => (hkey x hx y hy).symm
  rw [hsorted, ← List.map_take, bestOf]

end Store

/-! ## Results -/

/-- The result lists the found items, which are the best `k` of the candidates: their nodes as they
are read back, their similarities, and their identifiers, none of them twice. -/
structure QueryResult.IsTop (result : QueryResult) (key : Item → Int)
    (similarityOf : Item → Single) (k : Nat) (candidates found : List Item) : Prop where
  best : IsBest key k candidates found
  nodes : result.nodes = found.map fun item => item.node.reread
  similarities : result.similarities = found.map similarityOf
  ids : result.ids = result.nodes.map Node.id
  distinct : result.ids.Nodup

/-- **The hits of the best** of some stored items make up such a result, as the identifiers of
stored items are distinct. -/
theorem QueryResult.isTop_bestOf {items : List Item} (hdistinct : (items.map Item.id).Nodup)
    (p : Item → Bool) (key : Item → Int) (k : Nat) (similarityOf : Item → Single) :
    (QueryResult.ofHits ((bestOf key k (items.filter p)).map fun item =>
      (item.node.reread, similarityOf item))).IsTop key similarityOf k (items.filter p)
        (bestOf key k (items.filter p)) := by
  have hbest := isBest_bestOf key k (hdistinct.of_map.sublist (List.filter_sublist (p := p)))
  refine ⟨hbest, by simp [QueryResult.ofHits], by simp [QueryResult.ofHits],
    by simp [QueryResult.ofHits], ?_⟩
  have hids : (QueryResult.ofHits ((bestOf key k (items.filter p)).map fun item =>
      (item.node.reread, similarityOf item))).ids =
        (bestOf key k (items.filter p)).map Item.id := by
    simp [QueryResult.ofHits, Function.comp_def, Node.reread, Item.id]
  rw [hids]
  refine hbest.nodup.map_on fun a ha b hb => ?_
  exact List.inj_on_of_nodup_map hdistinct (List.mem_of_mem_filter (hbest.subset ha))
    (List.mem_of_mem_filter (hbest.subset hb))

end HybridRetrieval
