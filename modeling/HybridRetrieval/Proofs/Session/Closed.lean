import HybridRetrieval.Proofs.Session.Stocks
import HybridRetrieval.Proofs.Store.SparseQuery
/-!
# After closing

A connection is closed for all handles that share it, and it stays closed: connections keep their
numbers, an opening takes a new one, and nothing is stored behind a closed one (`IsClosed.perform`,
`IsClosed.editedRun`).

What a store answers then depends on when it looks at its connection.  Arguments are checked before,
so a request with something wrong in it fails for that reason, and an admissible one because the
store is closed.  A sparse query does not look at all if its text has no lexemes: it finds nothing,
and succeeds (`answers_of_closed`).
-/

namespace HybridRetrieval

/-! ## Requests -/

/-- What can be asked of a store, other than to close it. -/
inductive Store.Request where
  | add (items : List Item)
  | delete (docId : String)
  | query (query : Query)
  | get (id : String)
  | count
  | stats

/-- What a store answers. -/
inductive Store.Answer where
  | added (ids : List String)
  | deleted
  | found (result : QueryResult)
  | item (item : Option Item)
  | count (nodes : Nat)
  | stats (stats : Stats)

/-- The answer to a request. -/
def Store.answer (s : Store) (c : Connection) : Request → Except Error Answer
  | .add items => do return .added (← s.add items c).1
  | .delete docId => do
    let _ ← s.delete docId c
    return .deleted
  | .query q => do return .found (← s.query q c)
  | .get id => do return .item (← s.get id c)
  | .count => do return .count (← s.count c)
  | .stats => do return .stats (← s.stats c)

namespace Query

/-- A dense search can start: there is an embedding of the length of the store, and the keys of the
filters can be selected. -/
def StartsDense (s : Store) (q : Query) : Prop :=
  ∃ embedding, q.embedding = some embedding ∧ embedding.length = s.params.embedDim ∧
    Predicate.checkKeys q.filterList = .ok ()

/-- A sparse search can start: there is a text with lexemes, and the keys of the filters can be
selected. -/
def StartsSparse (s : Store) (q : Query) : Prop :=
  ∃ text, q.text = some text ∧ s.params.analyzer.lexemes text ≠ [] ∧
    Predicate.checkKeys q.filterList = .ok ()

/-- Nothing in a query keeps the store from looking into its database. -/
def IsAdmissible (s : Store) (q : Query) : Prop :=
  match q.mode with
  | .dense => q.StartsDense s
  | .sparse => s.hybrid = true ∧ q.StartsSparse s
  | .hybrid => s.hybrid = true ∧ (∃ text, q.text = some text) ∧ q.StartsDense s

/-- A sparse query of a hybrid store for a text without lexemes. -/
def IsVoid (s : Store) (q : Query) : Prop :=
  q.mode = .sparse ∧ s.hybrid = true ∧
    ∃ text, q.text = some text ∧ s.params.analyzer.lexemes text = []

end Query

/-- Nothing in a request keeps the store from looking into its database. -/
def Store.Request.IsAdmissible (s : Store) : Request → Prop
  | .add items => (Write.add items).Fits s.params.embedDim
  | .query q => q.IsAdmissible s
  | .delete _ | .get _ | .count | .stats => True

/-! ## A store without its database -/

/-- A check that is not about the connection decides unless it is passed. -/
theorem bind_eq_closed_iff {α : Type} {x : Except Error Unit} {f : Unit → Except Error α}
    (h : x ≠ .error .closed) :
    (x >>= f) = .error .closed ↔ x = .ok () ∧ f () = .error .closed := by
  cases x with
  | ok done => simp [bind, Except.bind]
  | error e => simpa [bind, Except.bind] using h

namespace Store

variable {s : Store}

theorem checkEmbedding_eq_ok_iff {embedding : List Single} :
    s.checkEmbedding embedding = .ok () ↔ embedding.length = s.params.embedDim := by
  unfold checkEmbedding
  split <;> simp [*]

theorem checkEmbedding_ne_closed (embedding : List Single) :
    s.checkEmbedding embedding ≠ .error .closed := by
  unfold checkEmbedding
  split <;> simp

theorem checkItems_eq_ok_iff {items : List Item} :
    s.checkItems items = .ok () ↔ (Write.add items).Fits s.params.embedDim := by
  rcases s.checkItems_eq items with ⟨hall, hok⟩ | ⟨item, hmem, hbad, herror⟩
  · exact iff_of_true hok hall
  · rw [herror]
    exact iff_of_false (fun h => by cases h) fun h => hbad (h item hmem)

theorem checkItems_ne_closed (items : List Item) : s.checkItems items ≠ .error .closed := by
  rcases s.checkItems_eq items with ⟨-, hok⟩ | ⟨_, -, -, herror⟩ <;> simp [*]

theorem checkKeys_ne_closed (filters : List Filter) :
    Predicate.checkKeys filters ≠ .error .closed := by
  unfold Predicate.checkKeys
  split <;> simp

/-- A dense search of a closed store fails, for want of the connection if it can start. -/
theorem denseQuery_closed (embedding : List Single) (limit : Nat) (filters : List Filter) :
    (s.denseQuery embedding limit filters none = .error .closed ↔
      embedding.length = s.params.embedDim ∧ Predicate.checkKeys filters = .ok ()) ∧
    ∀ result, s.denseQuery embedding limit filters none ≠ .ok result := by
  have hchecks : s.denseQuery embedding limit filters none = (do
      s.checkEmbedding embedding
      Predicate.checkKeys filters
      .error .closed) := rfl
  rw [hchecks]
  constructor
  · rw [bind_eq_closed_iff (checkEmbedding_ne_closed _)]
    simp [bind_eq_closed_iff (checkKeys_ne_closed _), checkEmbedding_eq_ok_iff]
  · simp [bind_eq_ok_iff]

/-- A sparse search of a closed store fails for want of the connection if its text has lexemes and
it can start. -/
theorem sparseQuery_closed {text : String} (h : s.params.analyzer.lexemes text ≠ []) (limit : Nat)
    (filters : List Filter) :
    (s.sparseQuery text limit filters none = .error .closed ↔
      Predicate.checkKeys filters = .ok ()) ∧
    ∀ result, s.sparseQuery text limit filters none ≠ .ok result := by
  have hchecks : s.sparseQuery text limit filters none = (do
      Predicate.checkKeys filters
      .error .closed) := sparseQuery_eq_of_lexeme h limit filters none
  rw [hchecks]
  constructor
  · simp [bind_eq_closed_iff (checkKeys_ne_closed _)]
  · simp [bind_eq_ok_iff]

/-- **A query of a closed store** fails for want of the connection exactly if it is admissible, and
succeeds exactly if it is void. -/
theorem query_closed (s : Store) (q : Query) :
    (s.query q none = .error .closed ↔ q.IsAdmissible s) ∧
      ∀ result, s.query q none = .ok result ↔ q.IsVoid s ∧ result = {} := by
  unfold query Query.IsAdmissible Query.IsVoid
  cases hmode : q.mode with
  | dense =>
      unfold Query.requireEmbedding Query.StartsDense
      cases q.embedding with
      | none => simp [bind, Except.bind]
      | some embedding =>
          have hclosed := s.denseQuery_closed embedding q.topK q.filterList
          simpa [bind, Except.bind] using hclosed
  | sparse =>
      unfold requireHybrid Query.requireText Query.StartsSparse
      cases s.hybrid with
      | false => simp [bind, Except.bind]
      | true =>
          cases q.text with
          | none => simp [bind, Except.bind]
          | some text =>
              by_cases hlexemes : s.params.analyzer.lexemes text = []
              · have hvoid :=
                  sparseQuery_of_noLexeme hlexemes q.effectiveSparseTopK q.filterList none
                simpa [bind, Except.bind, hvoid, hlexemes] using fun result => eq_comm
              · have hclosed := sparseQuery_closed hlexemes q.effectiveSparseTopK q.filterList
                simpa [bind, Except.bind, hlexemes] using hclosed
  | hybrid =>
      unfold requireHybrid Query.requireText Query.requireEmbedding Query.StartsDense
      cases s.hybrid with
      | false => simp [bind, Except.bind]
      | true =>
          cases q.text with
          | none => simp [bind, Except.bind]
          | some text =>
              cases q.embedding with
              | none => simp [bind, Except.bind]
              | some embedding =>
                  -- the dense search comes first and fails, whatever the text
                  obtain ⟨hclosed, hnever⟩ := s.denseQuery_closed embedding q.topK q.filterList
                  cases hdense : s.denseQuery embedding q.topK q.filterList none with
                  | ok result => exact absurd hdense (hnever result)
                  | error e =>
                      rw [hdense] at hclosed
                      simpa [bind, Except.bind, hdense] using hclosed

/-- **A closed store** answers that it is closed exactly if the request is admissible, and it gives
another answer than an error to void queries only, which find nothing. -/
theorem answer_closed (s : Store) (r : Request) :
    (s.answer none r = .error .closed ↔ r.IsAdmissible s) ∧
      ∀ answer, s.answer none r = .ok answer ↔
        ∃ q, r = .query q ∧ q.IsVoid s ∧ answer = .found {} := by
  cases r with
  | add items =>
      have hchecks : s.answer none (.add items) = (do
          s.checkItems items
          .error .closed) := by
        cases hcheck : s.checkItems items <;>
          simp [answer, add, hcheck, Connection.database, bind, Except.bind]
      rw [hchecks, bind_eq_closed_iff (checkItems_ne_closed items), checkItems_eq_ok_iff]
      simp [Request.IsAdmissible, bind_eq_ok_iff]
  | query q =>
      obtain ⟨hclosed, hvoid⟩ := s.query_closed q
      cases hquery : s.query q none with
      | error e =>
          rw [hquery] at hclosed hvoid
          have hnot : ¬ q.IsVoid s := fun h => by cases (hvoid {}).mpr ⟨h, rfl⟩
          simpa [answer, hquery, bind, Except.bind, Request.IsAdmissible, hnot] using hclosed
      | ok result =>
          rw [hquery] at hclosed hvoid
          obtain ⟨hq, rfl⟩ := (hvoid result).mp rfl
          have hnot : ¬ q.IsAdmissible s := fun h => by cases hclosed.mpr h
          simpa [answer, hquery, bind, Except.bind, pure, Except.pure, Request.IsAdmissible, hnot,
            hq] using fun answer => eq_comm
  | delete | get | count | stats =>
      refine ⟨iff_of_true rfl trivial, fun reply => iff_of_false (fun h => by cases h) ?_⟩
      rintro ⟨q, hq, -⟩
      cases hq

end Store

/-! ## Sessions -/

namespace Session

/-- The connection has been closed. -/
def IsClosed (s : Session) (number : Nat) : Prop := s.connections[number]? = some none

/-- Closing a connection forgets its place. -/
theorem close_eq (s : Session) (number : Nat) :
    s.close number = { s with connections := s.connections.set number none } := by
  unfold Session.close setConnection
  split
  · rename_i hnone
    cases hnone
  · rename_i hnone
    cases hnone
  · rfl

/-- An opening makes at most a new connection. -/
theorem prefix_connections_openStore (s : Session) (p : StoreParams) :
    s.connections <+: (s.openStore p).2.connections := by
  unfold openStore
  split
  · split
    · exact List.prefix_append _ _
    · exact List.prefix_rfl
  · split
    · exact List.prefix_append _ _
    · exact List.prefix_rfl

theorem connections_perform_openStore (s : Session) (name : String) (p : StoreParams) :
    (s.perform (.openStore name p)).connections = (s.openStore p).2.connections := by
  dsimp only [Session.perform]
  split <;> simp [*, setHandle]

namespace IsClosed

variable {s : Session} {number : Nat}

theorem connection (h : s.IsClosed number) : s.connection number = none := by
  rw [Session.connection, h]

/-- A connection that is closed is not closed again. -/
theorem close (h : s.IsClosed number) : s.close number = s := by
  obtain ⟨hlt, hnone⟩ := List.getElem?_eq_some_iff.mp h
  rw [close_eq, ← hnone, List.set_getElem_self]

/-- Closing a connection that there is. -/
theorem of_close (h : number < s.connections.length) : (s.close number).IsClosed number := by
  rw [IsClosed, close_eq]
  simp [h]

/-- New connections leave the old ones closed. -/
theorem of_prefix (h : s.IsClosed number) {next : Session}
    (hnext : s.connections <+: next.connections) : next.IsClosed number := by
  obtain ⟨hlt, -⟩ := List.getElem?_eq_some_iff.mp h
  obtain ⟨added, hadded⟩ := hnext
  rw [IsClosed, ← hadded, List.getElem?_append_left hlt]
  exact h

/-- What is stored is not stored behind a closed connection. -/
theorem setConnection (h : s.IsClosed number) (other : Nat) (c : Connection) :
    (s.setConnection other c).IsClosed number := by
  have hset : ∀ place, (other = number → place = none) →
      ({ s with connections := s.connections.set other place } : Session).IsClosed number := by
    intro place hplace
    rw [IsClosed, List.getElem?_set]
    split
    · rename_i heq
      obtain ⟨hlt, -⟩ := List.getElem?_eq_some_iff.mp h
      rw [if_pos (heq ▸ hlt), hplace heq]
    · exact h
  unfold Session.setConnection
  split
  · rename_i db next hmemory
    refine hset _ ?_
    rintro rfl
    rw [h] at hmemory
    cases hmemory
  · exact h
  · exact hset none fun _ => rfl

/-- **An operation** leaves a closed connection closed. -/
theorem perform (h : s.IsClosed number) (op : Operation) : (s.perform op).IsClosed number := by
  cases op with
  | openStore name p =>
      refine h.of_prefix ?_
      rw [connections_perform_openStore]
      exact s.prefix_connections_openStore p
  | write name w =>
      dsimp only [Session.perform]
      cases s.handle? name with
      | none => exact h
      | some handle =>
          show (s.writeThrough handle w).IsClosed number
          cases hdone : handle.1.write w (s.connection handle.2) with
          | error e => rwa [writeThrough_error hdone]
          | ok c =>
              rw [writeThrough_ok hdone]
              exact h.setConnection _ _
  | close name =>
      dsimp only [Session.perform]
      cases s.handle? name with
      | none => exact h
      | some handle => exact h.setConnection _ _
  | clone name other =>
      dsimp only [Session.perform]
      cases s.handle? name with
      | none => exact h
      | some handle => exact h
  | query | get | count | stats => exact h

/-- **A closed connection stays closed**, whatever is done and edited. -/
theorem editedRun (h : s.IsClosed number) {later : Session} (run : EditedRun s later) :
    later.IsClosed number := by
  induction run with
  | refl => exact h
  | step _ op ih => exact ih.perform op
  | edit _ done ih =>
      obtain ⟨_, -, done⟩ := bind_eq_ok_iff.mp done
      obtain ⟨_, -, done⟩ := bind_eq_ok_iff.mp done
      obtain ⟨-, rfl⟩ := Prod.mk.inj (Except.ok.inj done)
      exact ih

end IsClosed

/-- A handle answers to everything that it is closed. -/
def RejectsAll (s : Session) (handle : Store × Nat) : Prop :=
  ∀ r, handle.1.answer (s.connection handle.2) r = .error .closed

end Session

/-- **After closing.**  In any state a handle is closed, and anything is done and edited then.  A
handle that shares the connection answers that it is closed exactly to the admissible requests, it
gives another answer than an error to void queries only, which find nothing, and closing it again
changes nothing and tells nothing. -/
theorem answers_of_closed {start s : Session} (hstart : start.Fresh)
    (run : Session.EditedRun start s) {name : String} {handle : Store × Nat}
    (hhandle : s.handle? name = some handle) {later : Session}
    (hlater : Session.EditedRun (s.perform (.close name)) later) {other : String}
    {found : Store × Nat} (hfound : later.handle? other = some found)
    (hshared : found.2 = handle.2) :
    (∀ r, found.1.answer (later.connection found.2) r = .error .closed ↔
        r.IsAdmissible found.1) ∧
      (∀ r answer, found.1.answer (later.connection found.2) r = .ok answer ↔
        ∃ q, r = .query q ∧ q.IsVoid found.1 ∧ answer = .found {}) ∧
      later.perform (.close other) = later ∧
      found.1.closeEvents (later.connection found.2) = [] := by
  have hnumber : handle.2 < s.connections.length :=
    ((run.equipped hstart).handles name handle hhandle).1
  have hclosed : later.IsClosed found.2 := by
    have hnow : (s.perform (.close name)).IsClosed handle.2 := by
      simp only [Session.perform, hhandle]
      exact .of_close hnumber
    rw [hshared]
    exact hnow.editedRun hlater
  rw [hclosed.connection]
  refine ⟨fun r => (found.1.answer_closed r).1, fun r => (found.1.answer_closed r).2, ?_, rfl⟩
  simp only [Session.perform, hfound]
  exact hclosed.close

/-- A session in which a hybrid store in memory is opened and cloned. -/
def Session.withClone : Session :=
  [Operation.openStore "h" (Store.ofAnalyzer .english).params, .clone "h" "k"].foldl
    Session.perform { disk := .empty }

theorem Session.handle?_withClone :
    Session.withClone.handle? "h" = some (.ofAnalyzer .english, 0) := by
  rfl

/-- The clone that was not closed counts no nodes. -/
theorem answers_of_closed_withClone :
    (Store.ofAnalyzer .english).answer
      ((Session.withClone.perform (.close "h")).connection 0) .count = .error .closed := by
  have hclone : (Session.withClone.perform (.close "h")).handle? "k" =
      some (.ofAnalyzer .english, 0) := by rfl
  exact ((answers_of_closed Session.fresh_empty (Session.anyRun_foldl _ _).edited
    Session.handle?_withClone .refl hclone rfl).1 .count).mpr trivial

/-- **A closed store answers.**  The clone finds nothing for a text of stop words. -/
theorem not_rejectsAll_withClone :
    ∃ handle, (Session.withClone.perform (.close "h")).handle? "k" = some handle ∧
      ¬ (Session.withClone.perform (.close "h")).RejectsAll handle := by
  refine ⟨(.ofAnalyzer .english, 0), by rfl, ?_⟩
  intro h
  have hanswer : (Store.ofAnalyzer .english).answer
      ((Session.withClone.perform (.close "h")).connection 0) (.query (.sparse "the" 1 [])) =
        .ok (.found {}) := by
    rfl
  cases hanswer.symm.trans (h (.query (.sparse "the" 1 [])))

end HybridRetrieval
