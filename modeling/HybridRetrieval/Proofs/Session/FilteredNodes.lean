import HybridRetrieval.Proofs.Filter.Meaning
import HybridRetrieval.Proofs.Session.Filtering
import HybridRetrieval.Proofs.Store.Matches
/-!
# Nodes that pass filters

As long as nobody edits cells, every node that a query with filters returns is a stored one, and
each filter looked at one entry of its metadata, whose value the database finds equal
(`returned_node_filters`).  That the node has what the filter asks for follows only if this entry
has the filter's key for its name, is of the filter's JSON type and, as a number, is read alike.
-/

namespace HybridRetrieval

open Json

/-- What a store finds behind a connection is a stock, in every state of every run. -/
theorem Session.Run.isStock_rowsBehind {start s : Session} (hstart : start.Fresh)
    (run : start.AnyRun s) (store : Store) (number : Nat) :
    IsStock (store.rowsBehind (s.connection number)) := by
  cases hdb : s.connection number with
  | none => exact ⟨[], rfl, List.nodup_nil⟩
  | some db =>
      have hkept := (run.upheld_of_fresh maintained_wellKept hstart).good_of_has wellKept_empty
        (Or.inr ⟨number, hdb⟩)
      change IsStock (db.rowsOf store.names.data)
      by_cases htable : ∃ rows, db.table? store.names.data = some (.data rows)
      · obtain ⟨rows, hrows⟩ := htable
        rw [Database.rowsOf_eq hrows]
        exact hkept.stocks _ rows hrows
      · rw [Database.rowsOf_eq_nil (not_exists.mp htable)]
        exact ⟨[], rfl, List.nodup_nil⟩

/-- Of several filters that hold each one holds. -/
theorem Filter.holds_of_allHold {filters : List Filter} {metadata : Cell}
    (h : allHold filters metadata = .ok true) {f : Filter} (hf : f ∈ filters) :
    f.holds metadata = .ok true := by
  have hadmits := Except.ok.inj (h.symm.trans (allHold_eq_admits h))
  exact of_decide_eq_true (List.all_eq_true.mp hadmits.symm f hf)

/-- **What is known of a node that a query with filters returns**, in every state of every run,
through every handle and in every mode.  It is the stored node of an item, read back.  For each
filter the key has no NUL, and the value of the entry that it looks at is equal for the database.  A
key with a backslash looks at another entry than its own.  A key without one looks at an entry whose
name equals it up to the first NUL, and then the node has what the filter asks for exactly if the
name is the key, the value of the filter's JSON type and, if it is a number, read alike by the
database. -/
theorem returned_node_filters {start s : Session} (hstart : start.Fresh) (run : start.AnyRun s)
    (handle : Store × Nat) {q : Query} {r : QueryResult}
    (h : handle.1.query q (s.connection handle.2) = .ok r) {node : Node} (hnode : node ∈ r.nodes)
    {f : Filter} (hf : f ∈ q.filterList) :
    ∃ item : Item, DataRow.ofItem item ∈ handle.1.rowsBehind (s.connection handle.2) ∧
      node = item.node.reread ∧ '\x00' ∉ f.key.toList ∧
      ∃ name x, item.node.metadata.selected? f.key = some (name, x) ∧ f.value.equals x = true ∧
        ('\\' ∈ f.key.toList → name ≠ f.key) ∧
        ('\\' ∉ f.key.toList → name.toList.takeWhile (· ≠ '\x00') = f.key.toList ∧
          (f.IsMetBy node.metadata ↔
            name = f.key ∧ f.value.isOfType x = true ∧ x.ReadAlike)) := by
  obtain ⟨row, hrow, hread, hholds⟩ := Store.isFound_of_query h hnode
  obtain ⟨items, hitems, -⟩ := run.isStock_rowsBehind hstart handle.1 handle.2
  obtain ⟨item, -, rfl⟩ := List.mem_map.mp (hitems ▸ hrow)
  have hdepth := DataRow.toNode_ofItem_iff.mp ⟨node, hread⟩
  obtain rfl := Except.ok.inj (hread.symm.trans (DataRow.toNode_ofItem hdepth))
  have hsearched : item.node.metadata.toDocument.nesting ≤ maxSearchDepth :=
    hdepth.metadata.trans (by decide)
  obtain ⟨hnul, ⟨name, x⟩, hselected, hequals⟩ :=
    (f.holds_text_iff hsearched).mp (Filter.holds_of_allHold hholds hf)
  refine ⟨item, hrow, rfl, hnul, name, x, hselected, hequals, ?_, ?_⟩
  · exact fun hbackslash => Metadata.name_ne_of_selected? hbackslash hnul hselected
  · intro hbackslash
    have hmeant : Metadata.isMeantBy f.key (name, x) = true := List.find?_some hselected
    exact ⟨(Label.matchesKey_escape_iff hbackslash hnul _).mp hmeant,
      Filter.isMetBy_reread_iff hbackslash hnul hselected hequals⟩

/-- If a filter holds of the only item, a query with the filter returns it. -/
theorem Store.query_ofSingle (key : String) (x : Json) {f : Filter}
    (hread : (Item.withEntry key x).node.WithinDepth) (hkey : isSupportedKey f.key = true)
    (hholds : f.holds (.text (Item.withEntry key x).node.metadata.text) = .ok true) :
    ∃ r, (Store.ofDimension 1).query ((Query.dense [.one] 1).withFilters [f])
        ((Session.ofItems 1 [Item.withEntry key x]).connection 0) = .ok r ∧
      (Item.withEntry key x).node.reread ∈ r.nodes := by
  have hdb : (Session.ofItems 1 [Item.withEntry key x]).connection 0 = some
      ⟨[("data_t", .data ([Item.withEntry key x].map DataRow.ofItem))],
        ["idx_data_t_ref_doc"]⟩ := by
    rfl
  have honly : ∀ item ∈ [Item.withEntry key x], item = Item.withEntry key x := by simp
  have hall : Filter.allHold [f] (.text (Item.withEntry key x).node.metadata.text) = .ok true := by
    rw [Filter.allHold_singleton, hholds]
  have hfilters : Filter.Apply [f] [Item.withEntry key x] := by
    refine ⟨Filter.exists_render hkey _, fun item hitem => ?_⟩
    obtain rfl := honly item hitem
    exact ⟨true, hall⟩
  have hadmitted :
      [Item.withEntry key x].filter (Item.isAdmitted [f]) = [Item.withEntry key x] := by
    have hadmits := Except.ok.inj (hall.symm.trans (Filter.allHold_eq_admits hall))
    exact List.filter_cons_of_pos hadmits.symm
  have hsize : (StatementSize.dense [f]).Accepted :=
    StatementSize.accepted_dense_iff.mpr (by simp)
  have hnumber : ∀ item ∈ [Item.withEntry key x].filter (Item.isAdmitted [f]),
      (item.distanceTo [.one]).isNaN = false := by
    intro item hitem
    obtain rfl := honly item (List.mem_of_mem_filter hitem)
    exact show (Embedding.cosineDistance [.one] [.one]).isNaN = false by decide +kernel
  have hhits := Store.denseHits_ofItem hfilters 1 (fun item hitem => honly item hitem ▸ hread)
    hnumber
  have hbest : ∀ order : Item → Int, bestOf order 1 [Item.withEntry key x] = [.withEntry key x] :=
    fun order => List.perm_singleton.mp (bestOf_perm order (by simp))
  rw [hadmitted, hbest] at hhits
  rw [hdb, Store.query_dense (s := .ofDimension 1) (q := (Query.dense [.one] 1).withFilters [f])
    rfl rfl rfl hfilters.checkKeys hsize rfl]
  exact ⟨_, congrArg (Except.map QueryResult.ofHits) hhits, List.mem_singleton_self _⟩

/-- One, as a number. -/
def Json.one : Json := .number (.integer 1 (by decide))

/-- A node with the number one is found by a filter for that number, and has what it asks for. -/
theorem returned_node_filters_ofOne : ∃ r node item,
    (Store.ofDimension 1).query ((Query.dense [.one] 1).withFilters [⟨"k", .integer 1⟩])
      ((Session.ofItems 1 [Item.withEntry "k" .one]).connection 0) = .ok r ∧
    node ∈ r.nodes ∧ (⟨"k", .integer 1⟩ : Filter).IsMetBy node.metadata ∧
    DataRow.ofItem item ∈ (Store.ofDimension 1).rowsBehind
      ((Session.ofItems 1 [Item.withEntry "k" .one]).connection 0) ∧
    node = item.node.reread := by
  obtain ⟨r, hr, hnode⟩ := Store.query_ofSingle "k" .one (f := ⟨"k", .integer 1⟩)
    ⟨by decide +kernel, by decide +kernel⟩ (by decide) (by decide +kernel)
  obtain ⟨item, hrow, heq, -⟩ := returned_node_filters Session.fresh_empty
    (Session.anyRun_foldl _ _) (Store.ofDimension 1, 0) hr hnode (List.mem_singleton_self _)
  refine ⟨r, _, item, hr, hnode, ⟨Json.one.reread, ?_, ?_⟩, hrow, heq⟩
  · exact (Metadata.get?_reread _ _).trans rfl
  · rw [Json.one, Json.reread, Number.reread_integer]
    rfl

/-- A node with an array is found by a filter for the text of the array, which it does not have. -/
theorem not_isMetBy_ofArray : ∃ r node,
    (Store.ofDimension 1).query ((Query.dense [.one] 1).withFilters [⟨"k", .text "[1]"⟩])
      ((Session.ofItems 1 [Item.withEntry "k" (.array [.one])]).connection 0) = .ok r ∧
    node ∈ r.nodes ∧ node.metadata.get? "k" = some (.array [.one]) ∧
    ¬ (⟨"k", .text "[1]"⟩ : Filter).IsMetBy node.metadata := by
  obtain ⟨r, hr, hnode⟩ := Store.query_ofSingle "k" (.array [.one]) (f := ⟨"k", .text "[1]"⟩)
    ⟨by decide +kernel, by decide +kernel⟩ (by decide) (by decide +kernel)
  have hentry : (Item.withEntry "k" (.array [.one])).node.reread.metadata.get? "k" =
      some (.array [.one]) := by
    have hreread : (Json.array [.one]).reread = .array [.one] := by
      rw [Json.reread, rereadItems, rereadItems, Json.one, Json.reread, Number.reread_integer]
    refine (Metadata.get?_reread _ _).trans ?_
    exact congrArg some hreread
  refine ⟨r, _, hr, hnode, hentry, ?_⟩
  rintro ⟨x, hx, hmeans⟩
  obtain rfl := Option.some.inj (hentry.symm.trans hx)
  exact hmeans

end HybridRetrieval
