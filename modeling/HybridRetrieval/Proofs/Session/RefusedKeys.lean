import HybridRetrieval.Proofs.Filter.Rendering
import HybridRetrieval.Proofs.Session.Closed
/-!
# Refused keys

When does a query report a filter whose key no path can select?  Once a search has passed its checks
it can fail only in the storage (`FailsInStorage`, one lemma for each function that reads rows), so
the report can come from the check of the keys alone.  A dense search always gets to this check, a
sparse one only if its text has lexemes, and a hybrid query runs the dense search first.

So a query with nothing else wrong in it is refused exactly if it is not void
(`query_refused_iff`): the same filters are accepted for a text of stop words and refused for
another (`not_refusesAll_withClone`).
-/

namespace HybridRetrieval

/-! ## Failures of a search that has started -/

/-- The computation can fail only in the storage. -/
def FailsInStorage {α : Type} (x : Except Error α) : Prop := ∀ e, x = .error e → e = .storage

namespace FailsInStorage

theorem ok {α : Type} (a : α) : FailsInStorage (.ok a : Except Error α) := fun _ h => by cases h

theorem storage {α : Type} : FailsInStorage (.error .storage : Except Error α) :=
  fun _ h => (Except.error.inj h).symm

theorem bind {α β : Type} {x : Except Error α} {f : α → Except Error β} (hx : FailsInStorage x)
    (hf : ∀ a, FailsInStorage (f a)) : FailsInStorage (x >>= f) := by
  cases x with
  | ok a => exact hf a
  | error e =>
      obtain rfl := hx e rfl
      exact storage

theorem not_refused {α : Type} {x : Except Error α} (h : FailsInStorage x) (key : String) :
    x ≠ .error (.unsupportedKey key) := fun hx => by cases h _ hx

end FailsInStorage

section Rows

open FailsInStorage

theorem Database.dataRows_failsInStorage (db : Database) (name : String) :
    FailsInStorage (db.dataRows name) := by
  unfold dataRows
  split
  · exact .ok _
  · exact .storage

theorem Database.lexemeRows_failsInStorage (db : Database) (name : String) :
    FailsInStorage (db.lexemeRows name) := by
  unfold lexemeRows
  split
  · exact .ok _
  · exact .storage

theorem Filter.holds_failsInStorage (f : Filter) (metadata : Cell) :
    FailsInStorage (f.holds metadata) := by
  unfold holds
  split
  · exact .storage
  · split
    · exact .storage
    · exact .ok _
  · split
    · exact .storage
    · exact .ok _

theorem Filter.allHold_failsInStorage (filters : List Filter) (metadata : Cell) :
    FailsInStorage (allHold filters metadata) := by
  induction filters with
  | nil => exact .ok _
  | cons f rest ih =>
      refine bind (f.holds_failsInStorage metadata) fun holds => ?_
      cases holds with
      | false => exact .ok _
      | true => exact ih

theorem StatementSize.prepare_failsInStorage (size : StatementSize) :
    FailsInStorage size.prepare := by
  unfold prepare
  split
  · exact .ok _
  · exact .storage

namespace DataRow

theorem decodeCell_failsInStorage {α : Type} (decoder : Json.Decoder α) (cell : Cell) :
    FailsInStorage (decodeCell decoder cell) := by
  unfold decodeCell
  cases cell.text? with
  | none => exact .storage
  | some s =>
      dsimp only
      cases Json.decodeText decoder s.toList with
      | ok a => exact .ok a
      | error fault => exact .storage

theorem textCell_failsInStorage (cell : Cell) : FailsInStorage (textCell cell) := by
  unfold textCell
  split
  · exact .ok _
  · exact .storage

theorem blobCell_failsInStorage (cell : Cell) : FailsInStorage (blobCell cell) := by
  unfold blobCell
  split
  · exact .ok _
  · exact .storage

theorem toNode_failsInStorage (row : DataRow) : FailsInStorage row.toNode :=
  bind (decodeCell_failsInStorage _ _) fun _ => bind (decodeCell_failsInStorage _ _) fun _ =>
    bind (textCell_failsInStorage _) fun _ => bind (textCell_failsInStorage _) fun _ => .ok _

end DataRow

namespace Store

variable {α : Type}

theorem scoreRows_failsInStorage (filters : List Filter) {score : DataRow → Except Error α}
    (hscore : ∀ row, FailsInStorage (score row)) (rows : List DataRow) :
    FailsInStorage (scoreRows filters score rows) := by
  induction rows with
  | nil => exact .ok _
  | cons row rest ih =>
      refine bind (Filter.allHold_failsInStorage filters row.metadata) fun holds => ?_
      cases holds with
      | false => exact ih
      | true => exact bind (hscore row) fun _ => bind ih fun _ => .ok _

theorem toHits_failsInStorage {similarity : α → Except Error Single}
    (hsimilarity : ∀ x, FailsInStorage (similarity x)) (scored : List (Scored α)) :
    FailsInStorage (toHits similarity scored) := by
  induction scored with
  | nil => exact .ok _
  | cons first rest ih =>
      exact bind first.1.toNode_failsInStorage fun _ => bind (hsimilarity first.2) fun _ =>
        bind ih fun _ => .ok _

theorem denseHits_failsInStorage (embedding : List Single) (limit : Nat) (filters : List Filter)
    (rows : List DataRow) : FailsInStorage (denseHits embedding limit filters rows) := by
  unfold denseHits
  split
  · exact .ok _
  · refine bind (scoreRows_failsInStorage _ (fun row => ?_) rows) fun scored =>
      toHits_failsInStorage (fun distance => ?_) _
    · exact bind (DataRow.blobCell_failsInStorage _) fun _ => .ok _
    · unfold similarityOf
      split
      · exact .storage
      · exact .ok _

theorem sparseHits_failsInStorage (terms : List String) (limit : Nat) (filters : List Filter)
    (lexemes : List LexemeRow) (rows : List DataRow) :
    FailsInStorage (sparseHits terms limit filters lexemes rows) := by
  unfold sparseHits
  split
  · exact .ok _
  · exact bind (scoreRows_failsInStorage _ (fun _ => .ok _) _) fun scored =>
      toHits_failsInStorage (fun _ => .ok _) _

end Store

end Rows

/-! ## Queries -/

namespace Query

/-- Nothing is wrong with a query but perhaps its filters: the store allows its mode, and the text
and the embedding that the mode needs are there, the embedding with the length of the store. -/
def IsReady (s : Store) (q : Query) : Prop :=
  (q.mode.usesText = true → s.hybrid = true ∧ ∃ text, q.text = some text) ∧
    (q.mode ≠ .sparse → ∃ embedding, q.embedding = some embedding ∧
      embedding.length = s.params.embedDim)

end Query

namespace Store

variable {s : Store}

/-- A check is what reports a key if nothing after it does. -/
theorem bind_eq_refused_iff {α β : Type} {x : Except Error α} {f : α → Except Error β}
    {key : String} (h : ∀ a, f a ≠ .error (.unsupportedKey key)) :
    (x >>= f) = .error (.unsupportedKey key) ↔ x = .error (.unsupportedKey key) := by
  cases x with
  | ok a => simpa [bind, Except.bind] using h a
  | error e => simp [bind, Except.bind]

/-- What is done on an open connection and fails only in the storage reports no key. -/
theorem database_bind_ne_refused {α : Type} {f : Database → Except Error α}
    (h : ∀ db, FailsInStorage (f db)) (c : Connection) (key : String) :
    (c.database >>= f) ≠ .error (.unsupportedKey key) := by
  cases c with
  | none => exact fun hclosed => by cases hclosed
  | some db => exact (h db).not_refused key

/-- **A dense search** that fits the store reports exactly what the check of the keys does. -/
theorem denseQuery_refused_iff {embedding : List Single}
    (hlength : embedding.length = s.params.embedDim) (limit : Nat) (filters : List Filter)
    (c : Connection) (key : String) :
    s.denseQuery embedding limit filters c = .error (.unsupportedKey key) ↔
      Predicate.checkKeys filters = .error (.unsupportedKey key) := by
  have hchecked : s.denseQuery embedding limit filters c = (do
      Predicate.checkKeys filters
      let db ← c.database
      (StatementSize.dense filters).prepare
      let rows ← db.dataRows s.names.data
      return .ofHits (← denseHits embedding limit filters rows)) := by
    rw [denseQuery, checkEmbedding_eq_ok_iff.mpr hlength]
    rfl
  rw [hchecked]
  refine bind_eq_refused_iff fun _ => database_bind_ne_refused (fun db => ?_) c key
  exact .bind (StatementSize.prepare_failsInStorage _) fun _ =>
    .bind (db.dataRows_failsInStorage _) fun rows =>
      .bind (denseHits_failsInStorage _ _ _ _) fun _ => .ok _

/-- **A sparse search** for a text with lexemes reports exactly what the check of the keys does. -/
theorem sparseQuery_refused_iff {text : String} (h : s.params.analyzer.lexemes text ≠ [])
    (limit : Nat) (filters : List Filter) (c : Connection) (key : String) :
    s.sparseQuery text limit filters c = .error (.unsupportedKey key) ↔
      Predicate.checkKeys filters = .error (.unsupportedKey key) := by
  rw [sparseQuery_eq_of_lexeme h]
  refine bind_eq_refused_iff fun _ => database_bind_ne_refused (fun db => ?_) c key
  exact .bind (StatementSize.prepare_failsInStorage _) fun _ =>
    .bind (db.dataRows_failsInStorage _) fun rows =>
      .bind (db.lexemeRows_failsInStorage _) fun lexemes =>
        .bind (sparseHits_failsInStorage _ _ _ _ _) fun _ => .ok _

/-- A query in hybrid mode reports a key if one of its searches does, and the dense one comes
first. -/
theorem hybrid_refused_iff {embedding : List Single}
    (hlength : embedding.length = s.params.embedDim) (text : String) (limit sparseLimit : Nat)
    (filters : List Filter) (c : Connection) (key : String) :
    (do
      let dense ← s.denseQuery embedding limit filters c
      let sparse ← s.sparseQuery text sparseLimit filters c
      return fuse dense sparse) = Except.error (.unsupportedKey key) ↔
      Predicate.checkKeys filters = .error (.unsupportedKey key) := by
  rw [← denseQuery_refused_iff hlength limit filters c key]
  cases hdense : s.denseQuery embedding limit filters c with
  | error e => simp [bind, Except.bind]
  | ok dense =>
      -- the dense search found all keys acceptable, so the sparse one does too
      have hkeys : Predicate.checkKeys filters ≠ .error (.unsupportedKey key) := by
        rw [Ne, ← denseQuery_refused_iff hlength limit filters c key, hdense]
        exact fun h => by cases h
      have hsparse : s.sparseQuery text sparseLimit filters c ≠ .error (.unsupportedKey key) := by
        by_cases hlexemes : s.params.analyzer.lexemes text = []
        · rw [sparseQuery_of_noLexeme hlexemes]
          exact fun h => by cases h
        · rwa [Ne, sparseQuery_refused_iff hlexemes]
      refine iff_of_false ?_ (fun h => by cases h)
      exact fun h =>
        hsparse ((bind_eq_refused_iff fun _ => (FailsInStorage.ok _).not_refused key).mp h)

/-- **When a query reports a key.**  A ready query reports the first key of its filters that no path
can select, unless it is void. -/
theorem query_refused_iff {q : Query} (h : q.IsReady s) (c : Connection) (key : String) :
    s.query q c = .error (.unsupportedKey key) ↔
      Filter.IsFirstRefused q.filterList key ∧ ¬ q.IsVoid s := by
  have hfirst : Predicate.checkKeys q.filterList = .error (.unsupportedKey key) ↔
      Filter.IsFirstRefused q.filterList key := by
    rw [Predicate.checkKeys_eq_error_iff]
    exact ⟨fun ⟨_, hsame, hkey⟩ => Error.unsupportedKey.inj hsame ▸ hkey,
      fun hkey => ⟨_, rfl, hkey⟩⟩
  obtain ⟨htext, hembedding⟩ := h
  rw [← hfirst]
  cases hmode : q.mode with
  | dense =>
      obtain ⟨embedding, hsome, hlength⟩ := hembedding (by simp [hmode])
      simpa [query, hmode, Query.requireEmbedding, hsome, Query.IsVoid, bind, Except.bind] using
        denseQuery_refused_iff hlength q.topK q.filterList c key
  | sparse =>
      obtain ⟨hhybrid, text, hsome⟩ := htext (by simp [hmode, QueryMode.usesText])
      rw [query_sparse hhybrid hmode hsome]
      by_cases hlexemes : s.params.analyzer.lexemes text = []
      · rw [sparseQuery_of_noLexeme hlexemes]
        simp [Query.IsVoid, hmode, hhybrid, hsome, hlexemes]
      · rw [sparseQuery_refused_iff hlexemes]
        simp [Query.IsVoid, hmode, hhybrid, hsome, hlexemes]
  | hybrid =>
      obtain ⟨hhybrid, text, hsome⟩ := htext (by simp [hmode, QueryMode.usesText])
      obtain ⟨embedding, hgiven, hlength⟩ := hembedding (by simp [hmode])
      have hsearches :=
        hybrid_refused_iff hlength text q.topK q.effectiveSparseTopK q.filterList c key
      simpa [query, hmode, requireHybrid, hhybrid, Query.requireText, hsome, Query.requireEmbedding,
        hgiven, Query.IsVoid, bind, Except.bind] using hsearches

/-- A void query finds nothing, whatever its filters. -/
theorem query_of_isVoid {q : Query} (h : q.IsVoid s) (c : Connection) : s.query q c = .ok {} := by
  obtain ⟨hmode, hhybrid, text, htext, hlexemes⟩ := h
  rw [query_sparse hhybrid hmode htext, sparseQuery_of_noLexeme hlexemes]

end Store

/-- **A key that no path can select is reported unless the query is void.**  For every store and
connection, and every query with nothing else wrong in it: it fails for a key exactly if the key is
the first refused one of its filters and the query is not void; a void one finds nothing.  So of two
such queries with the same filters one is refused and the other is not only if that one is void. -/
theorem refuses_unless_void (s : Store) {q : Query} (h : q.IsReady s) (c : Connection) :
    (∀ key, s.query q c = .error (.unsupportedKey key) ↔
      Filter.IsFirstRefused q.filterList key ∧ ¬ q.IsVoid s) ∧
    (q.IsVoid s → s.query q c = .ok {}) ∧
    ∀ (other : Query) (c' : Connection) (key : String), other.IsReady s →
      other.filterList = q.filterList → s.query q c = .error (.unsupportedKey key) →
      (s.query other c' = .error (.unsupportedKey key) ↔ ¬ other.IsVoid s) := by
  refine ⟨Store.query_refused_iff h c, fun hvoid => Store.query_of_isVoid hvoid c, ?_⟩
  intro other c' key hother hfilters hrefused
  rw [Store.query_refused_iff hother, hfilters]
  exact and_iff_right ((Store.query_refused_iff h c key).mp hrefused).1

/-- A filter with a double quote in its key. -/
def Filter.quoted : Filter := ⟨"a\"b", .text "x"⟩

theorem Query.isReady_sparse (text : String) (topK : Nat) (filters : List Filter) :
    (Query.sparse text topK filters).IsReady (.ofAnalyzer .english) :=
  ⟨fun _ => ⟨rfl, text, rfl⟩, fun h => absurd rfl h⟩

/-- The open store refuses a query for a fox. -/
theorem refuses_unless_void_fox :
    (Store.ofAnalyzer .english).query (.sparse "fox" 1 [.quoted])
      (Session.withClone.connection 0) = .error (.unsupportedKey "a\"b") := by
  refine ((refuses_unless_void _ (Query.isReady_sparse "fox" 1 [.quoted]) _).1 _).mpr ⟨?_, ?_⟩
  · exact ⟨[], .quoted, [], rfl, rfl, by decide, fun _ h => by cases h⟩
  · rintro ⟨-, -, text, htext, hlexemes⟩
    obtain rfl := Option.some.inj htext
    exact absurd hlexemes (by decide +kernel)

/-- A handle refuses every ready query with a key that no path can select. -/
def Session.RefusesAll (s : Session) (handle : Store × Nat) : Prop :=
  ∀ q key, q.IsReady handle.1 → Filter.IsFirstRefused q.filterList key →
    handle.1.query q (s.connection handle.2) = .error (.unsupportedKey key)

/-- **An open store accepts a key that no path can select**, for a text of stop words. -/
theorem not_refusesAll_withClone :
    ∃ handle, Session.withClone.handle? "h" = some handle ∧
      (Session.withClone.connection handle.2).isSome ∧ ¬ Session.withClone.RefusesAll handle := by
  refine ⟨(.ofAnalyzer .english, 0), Session.handle?_withClone, by rfl, ?_⟩
  intro h
  have hanswer : (Store.ofAnalyzer .english).query (.sparse "the" 1 [.quoted])
      (Session.withClone.connection 0) = .ok {} := by
    rfl
  have hkey : Filter.IsFirstRefused (Query.sparse "the" 1 [.quoted]).filterList "a\"b" :=
    ⟨[], .quoted, [], rfl, rfl, by decide, fun _ h => by cases h⟩
  cases hanswer.symm.trans (h _ _ (Query.isReady_sparse "the" 1 [.quoted]) hkey)

end HybridRetrieval
