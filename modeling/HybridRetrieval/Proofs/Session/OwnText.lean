import HybridRetrieval.Proofs.Lexeme.QueryTerms
import HybridRetrieval.Proofs.Node.NestingLimit
import HybridRetrieval.Proofs.Session.Sharing
/-!
# A query for the text of a stored node

Both sides of the analyzer describe the lexemes of a text: the query lists them in the order of
their first occurrences, the document counts them.  So a text shares a lexeme with itself as soon as
it has one, and a sparse query for the text of a stored node comes upon this node if the lexemes fit
into a statement (`found_by_own_text`).  It lists the node unless it also comes upon a row that
cannot be read back, because the search then fails as a whole.  A store takes nodes of both kinds
that are not found (`unfound_by_own_text`).
-/

namespace HybridRetrieval

/-- A row with a lexeme in its text shares it with the text. -/
theorem DataRow.sharesLexeme_self {a : Analyzer} {d : DataRow} {id text : String}
    (hid : d.nodeId = .text id) (htext : d.text = .text text) (h : a.lexemes text ≠ []) :
    d.SharesLexeme a text := by
  obtain ⟨x, hx⟩ := List.exists_mem_of_ne_nil _ h
  exact (sharesLexeme_iff_of_text hid htext).mpr (sharesLexeme_iff.mpr ⟨x, hx, hx⟩)

/-- **Both sides of the analyzer agree.**  The terms of a query are the keys of the terms of the
document, each once, in the order in which they first occur in the text.  The document counts how
often each of them occurs, and so the counts add up to the number of lexemes.

Hence in any state of a session, through an open hybrid store whose index is in step, a sparse query
for the text of a stored row, without filters and with room for all rows, lists the node of the row,
if the text has a lexeme but fewer distinct ones than a statement can bind, and all rows that share
one with it can be read back.  If one of these cannot, or if the lexemes are too many, the query
fails in the storage. -/
theorem found_by_own_text :
    (∀ (a : Analyzer) (text : String),
      (a.queryTerms text).Nodup ∧
      (a.queryTerms text).Perm ((a.documentTerms text).map Prod.fst) ∧
      ((a.queryTerms text).Pairwise fun x y =>
        (a.lexemes text).idxOf x < (a.lexemes text).idxOf y) ∧
      (∀ x n, (x, n) ∈ a.documentTerms text ↔ 0 < n ∧ (a.lexemes text).count x = n) ∧
      ((a.documentTerms text).map Prod.snd).sum = (a.lexemes text).length) ∧
    ∀ {start s : Session}, start.Fresh → Session.EditedRun start s →
      ∀ {name : String} {handle : Store × Nat}, s.handle? name = some handle →
      ∀ {db : Database}, s.connection handle.2 = some db → handle.1.hybrid = true →
      ∃ stored rows, db.table? handle.1.names.data = some (.data stored) ∧
        db.table? handle.1.names.lexemes = some (.lexemes rows) ∧
        (IsIndexOfRows handle.1.params.analyzer stored rows →
          ∀ d ∈ stored, ∀ id text, d.nodeId = .text id → d.text = .text text →
          handle.1.params.analyzer.lexemes text ≠ [] → ∀ q, q.AsksFor text stored.length →
          ((handle.1.params.analyzer.queryTerms text).length < StatementSize.maxValues →
            ((∀ other ∈ stored, other.SharesLexeme handle.1.params.analyzer text →
                other.IsReadable) →
              ∃ r node, handle.1.query q (s.connection handle.2) = .ok r ∧
                d.toNode = .ok node ∧ node ∈ r.nodes) ∧
            ((∃ other ∈ stored, other.SharesLexeme handle.1.params.analyzer text ∧
                ¬ other.IsReadable) →
              handle.1.query q (s.connection handle.2) = .error .storage)) ∧
          (StatementSize.maxValues ≤ (handle.1.params.analyzer.queryTerms text).length →
            handle.1.query q (s.connection handle.2) = .error .storage)) := by
  constructor
  · intro a text
    exact ⟨a.nodup_queryTerms text, a.queryTerms_perm text, a.pairwise_idxOf_queryTerms text,
      fun _ _ => Analyzer.mem_documentTerms_iff, a.sum_documentTerms text⟩
  · intro start s hstart run name handle hhandle db hdb hhybrid
    obtain ⟨stored, rows, hstored, hrows, hfinds⟩ :=
      run.findsSharing hstart hhandle hdb hhybrid
    refine ⟨stored, rows, hstored, hrows, ?_⟩
    intro hindex d hd id text hid htext hlexemes q hq
    obtain ⟨hsharing, hrefused⟩ := hfinds hindex q text hq
    refine ⟨fun hfew => ⟨fun hread => ?_, (hsharing hfew).fails⟩, hrefused⟩
    obtain ⟨r, hr, hlisted⟩ := (hsharing hfew).exists_node_iff hread
    obtain ⟨node, hnode, hmem⟩ :=
      (hlisted d hd).mpr (DataRow.sharesLexeme_self hid htext hlexemes)
    exact ⟨r, node, hr, hnode, hmem⟩

/-- One of two texts about foxes and hens is found by itself. -/
theorem found_by_own_text_foxAndHen :
    Analyzer.english.queryTerms "The hen saw a red fox!" = ["hen", "saw", "red", "fox"] ∧
      ∃ r node, (Store.ofAnalyzer .english).query (.sparse "The hen saw a red fox!" 2 [])
          ((Session.ofHybrid Item.foxAndHen).connection 0) = .ok r ∧
        (DataRow.ofItem (.ofText "b" "The hen saw a red fox!")).toNode = .ok node ∧
        node ∈ r.nodes := by
  have hhandle : (Session.ofHybrid Item.foxAndHen).handle? "h" =
    some (.ofAnalyzer .english, 0) := by rfl
  have hdb : (Session.ofHybrid Item.foxAndHen).connection 0 =
    some (.ofHybrid Item.foxAndHen) := by rfl
  have hdistinct : (Item.foxAndHen.map Item.id).Nodup := by decide
  obtain ⟨stored, rows, hstored, hrows, hfound⟩ := found_by_own_text.2 Session.fresh_empty
    (Session.anyRun_foldl _ _).edited hhandle hdb rfl
  obtain rfl := Table.data.inj (Option.some.inj hstored)
  obtain rfl := Table.lexemes.inj (Option.some.inj hrows)
  refine ⟨by decide +kernel, ?_⟩
  obtain ⟨hlisted, -⟩ := hfound (isIndexOfRows_ofHybrid rfl hdistinct) (.ofItem (.ofText "b"
    "The hen saw a red fox!")) (by simp [Item.foxAndHen]) "b" _ rfl rfl (by decide +kernel)
    (.sparse "The hen saw a red fox!" 2 []) ⟨rfl, rfl, rfl, by decide⟩
  refine (hlisted (by decide +kernel)).1 ?_
  intro other hother _
  obtain ⟨item, hitem, rfl⟩ := List.mem_map.mp hother
  refine ⟨_, DataRow.toNode_ofItem ?_⟩
  rcases Item.eq_of_mem_foxAndHen hitem with rfl | rfl <;>
    exact ⟨by decide +kernel, by decide +kernel⟩

/-! ## Nodes that are not found -/

/-- A store takes the item and keeps its index in step, but a query for the text of the item, which
has a lexeme, fails. -/
structure Item.IsUnfound (item : Item) : Prop where
  handle : (Session.ofHybrid [item]).handle? "h" = some (.ofAnalyzer .english, 0)
  connection : (Session.ofHybrid [item]).connection 0 = some (.ofHybrid [item])
  index : IsIndexOfRows .english [.ofItem item] ((Write.add [item]).reindex .english [] [])
  lexemes : Analyzer.english.lexemes item.node.text ≠ []
  fails : (Store.ofAnalyzer .english).query (.sparse item.node.text 1 [])
    ((Session.ofHybrid [item]).connection 0) = .error .storage

/-- An array in an array, and so on. -/
def Json.nested : Nat → Json
  | 0 => .null
  | n + 1 => .array [nested n]

/-- A text with metadata that is nested one level too deep to be read back. -/
def Item.tooDeep : Item :=
  ⟨{ id := "a", text := "fox", metadata := Metadata.empty.insert "k" (.nested 127) }, []⟩

/-- A node that cannot be read back is not found. -/
theorem Item.isUnfound_tooDeep : Item.tooDeep.IsUnfound := by
  have hhandle : (Session.ofHybrid [.tooDeep]).handle? "h" =
    some (.ofAnalyzer .english, 0) := by rfl
  have hdb : (Session.ofHybrid [.tooDeep]).connection 0 = some (.ofHybrid [.tooDeep]) := by rfl
  have hlexemes : Analyzer.english.lexemes Item.tooDeep.node.text = ["fox"] := by decide +kernel
  have hone : Analyzer.english.lexemes Item.tooDeep.node.text ≠ [] := by
    rw [hlexemes]
    exact List.cons_ne_nil _ _
  have hunread : ¬ (DataRow.ofItem .tooDeep).IsReadable := by
    intro hread
    exact absurd (DataRow.toNode_ofItem_iff.mp hread).metadata (by decide +kernel)
  refine ⟨hhandle, hdb, isIndexOfRows_ofHybrid rfl (List.nodup_singleton _), hone, ?_⟩
  exact (findsSharing_ofHybrid hhandle hdb rfl (List.nodup_singleton _) ⟨rfl, rfl, rfl, le_rfl⟩
    (by decide +kernel)).fails
      ⟨_, List.mem_singleton_self _, DataRow.sharesLexeme_self rfl rfl hone, hunread⟩

/-- A node whose text has too many distinct lexemes is not found. -/
theorem Item.isUnfound_of_many {text : String}
    (hmany : StatementSize.maxValues ≤ (Analyzer.english.queryTerms text).length) :
    (Item.ofText "a" text).IsUnfound := by
  have hdb : (Session.ofHybrid [.ofText "a" text]).connection 0 =
    some (.ofHybrid [.ofText "a" text]) := by rfl
  have hlexemes : Analyzer.english.lexemes text ≠ [] :=
    Analyzer.lexemes_ne_nil_of_many hmany
  have hq : (Query.sparse text 1 []).AsksFor text 1 := ⟨rfl, rfl, rfl, Nat.le_refl 1⟩
  refine ⟨by rfl, hdb, isIndexOfRows_ofHybrid rfl (List.nodup_singleton _), hlexemes, ?_⟩
  rw [hdb]
  exact hq.eq_storage rfl hmany _

/-- **Two nodes that are not found by their own text**: one is nested too deep, and the text of the
other has 32766 distinct lexemes. -/
theorem unfound_by_own_text :
    Item.tooDeep.IsUnfound ∧ (Item.ofText "a" (numerals 32766)).IsUnfound := by
  refine ⟨Item.isUnfound_tooDeep, Item.isUnfound_of_many ?_⟩
  rw [Analyzer.length_queryTerms_numerals, StatementSize.maxValues]

end HybridRetrieval
