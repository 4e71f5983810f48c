import HybridRetrieval.Proofs.Session.LastAdditions
import HybridRetrieval.Proofs.Store.DenseQuery
/-!
# How long stored embeddings are

The length of embeddings is a parameter of stores and not of tables: it is checked against the store
through which a node is added, and rows outlive stores.  So a row has the length of the store that
added its node last (`Session.lastAdder?`), which may differ from that of the store that has the
table open (`stored_dimension`).  A dense query through the latter sees a row of another length at
distance one.
-/

namespace HybridRetrieval

/-- Embeddings of different lengths are at distance one. -/
theorem Embedding.cosineDistance_of_length_ne {a b : List Single} (h : a.length ≠ b.length) :
    cosineDistance a b = .one := by
  rw [cosineDistance, cosineSimilarity, if_pos (Or.inl h)]
  decide +kernel

namespace Session

/-- The store through which an operation adds a node to a data table at a site. -/
def adder? (site : Site) (table id : String) (s : Session) (op : Operation) : Option Store :=
  match s.change? site table op with
  | some (store, .add items) => if (Item.last? id items).isSome then some store else none
  | some (_, .delete _) => none
  | none => none

/-- The store through which operations last add a node to a data table at a site. -/
def lastAdder? (site : Site) (table id : String) : Session → List Operation → Option Store
  | _, [] => none
  | s, op :: rest =>
    (lastAdder? site table id (s.perform op) rest).or (adder? site table id s op)

/-- The store of the last addition. -/
theorem lastAdder?_eq (site : Site) (table id : String) (s : Session) (ops : List Operation) :
    lastAdder? site table id s ops =
      (lastAddition? site table id s ops).map fun addition => addition.1 := by
  have hone : ∀ (s : Session) op, adder? site table id s op =
      (addition? site table id s op).map fun addition => addition.1 := by
    intro s op
    unfold adder? addition?
    cases s.change? site table op with
    | none => rfl
    | some change =>
        obtain ⟨store, w⟩ := change
        cases w with
        | delete docId => rfl
        | add items =>
            dsimp only
            cases Item.last? id items <;> rfl
  induction ops generalizing s with
  | nil => rfl
  | cons op rest ih => rw [lastAdder?, lastAddition?, ih, hone, Option.map_or]

/-- The items of a data table, each as long as the embeddings of the store that added it last. -/
def Measured (site : Site) (table : String) (start : Session) (ops : List Operation)
    (items : List Item) : Prop :=
  (ops.foldl perform start).rowsAt site table = items.map DataRow.ofItem ∧
    (items.map Item.id).Nodup ∧ ∀ item ∈ items, ∃ adder,
      lastAdder? site table item.id start ops = some adder ∧
        item.embedding.length = adder.params.embedDim

/-- **Every row is as long as the store that added it last**, after whatever operations. -/
theorem exists_measured {start : Session} (hstart : start.Fresh) (site : Site) (table : String)
    (ops : List Operation) : ∃ items, Measured site table start ops items := by
  obtain ⟨items, hrecorded⟩ := exists_recorded hstart site table ops
  refine ⟨items, hrecorded.rows, hrecorded.distinct, ?_⟩
  intro item hitem
  obtain ⟨adder, hlast, hlength⟩ := hrecorded.last item hitem
  exact ⟨adder, by rw [lastAdder?_eq, hlast]; rfl, hlength⟩

/-- Every row that a handle has open holds an embedding of the length of its store. -/
def Uniform (s : Session) : Prop :=
  ∀ name handle db stored, s.handle? name = some handle → s.connection handle.2 = some db →
    db.table? handle.1.names.data = some (.data stored) → ∀ row ∈ stored, ∃ bytes,
      row.embedding = .blob bytes ∧ (Embedding.decode bytes).length = handle.1.params.embedDim

end Session

/-- **The length of a stored embedding** is that of the store through which its node was added last,
after any operations.  It is that of the store that has the table open exactly if this has the same;
otherwise the row is at distance one from whatever is asked. -/
theorem stored_dimension {start : Session} (hstart : start.Fresh) (ops : List Operation)
    {name : String} {handle : Store × Nat}
    (hhandle : (ops.foldl Session.perform start).handle? name = some handle) {site : Site}
    (hsite : (ops.foldl Session.perform start).site? handle.2 = some site) :
    ∃ db stored, (ops.foldl Session.perform start).connection handle.2 = some db ∧
      db.table? handle.1.names.data = some (.data stored) ∧
      ∀ row ∈ stored, ∃ id bytes adder, row.nodeId = .text id ∧ row.embedding = .blob bytes ∧
        Session.lastAdder? site handle.1.names.data id start ops = some adder ∧
        (Embedding.decode bytes).length = adder.params.embedDim ∧
        (adder.params.embedDim ≠ handle.1.params.embedDim → ∀ embedding : List Single,
          embedding.length = handle.1.params.embedDim →
            Store.distanceFrom embedding row = .ok .one) := by
  have hequipped := (Session.anyRun_foldl ops start).edited.equipped hstart
  obtain ⟨db, stored, hconnection, -, -, hstored, rfl⟩ := hequipped.exists_tables hhandle hsite
  refine ⟨db, _, hconnection, hstored, ?_⟩
  obtain ⟨items, hrows, -, hmeasured⟩ :=
    Session.exists_measured hstart site handle.1.names.data ops
  rw [hrows]
  intro row hrow
  obtain ⟨item, hitem, rfl⟩ := List.mem_map.mp hrow
  obtain ⟨adder, hadder, hlength⟩ := hmeasured item hitem
  refine ⟨item.id, Embedding.encode item.embedding, adder, rfl, rfl, hadder, ?_, ?_⟩
  · rw [Embedding.decode_encode, hlength]
  · intro hother embedding hembedding
    rw [Store.distanceFrom_ofItem, Item.distanceTo, Embedding.cosineDistance_of_length_ne]
    rw [hlength, hembedding]
    exact hother

/-- A table in a file that is filled through a store for embeddings of length one and opened again
through one for embeddings of length two. -/
def Session.widened : Session :=
  [Operation.openStore "h" (.inFile 1), .write "h" (.add [.ofEmbedding "a" [.one]]), .close "h",
    .openStore "r" (.inFile 2)].foldl Session.perform { disk := .empty }

theorem Session.handle?_widened :
    Session.widened.handle? "r" = some (⟨⟨"data_t", "data_t_lexemes"⟩, .inFile 2⟩, 1) := by
  decide +kernel

theorem Session.connection_widened :
    Session.widened.connection 1 = some
      ⟨[("data_t", .data [.ofItem (.ofEmbedding "a" [.one])])], ["idx_data_t_ref_doc"]⟩ := by
  rfl

/-- The stored row is at distance one from an embedding of length two. -/
theorem stored_dimension_widened :
    Store.distanceFrom [.one, .zero] (.ofItem (.ofEmbedding "a" [.one])) = .ok .one := by
  have hsite : Session.widened.site? 1 = some (.file ["d"]) := by decide +kernel
  obtain ⟨db, stored, hdb, hstored, hrows⟩ :=
    stored_dimension Session.fresh_empty _ Session.handle?_widened hsite
  obtain rfl := Option.some.inj (Session.connection_widened.symm.trans hdb)
  obtain rfl := Table.data.inj (Option.some.inj hstored)
  obtain ⟨id, bytes, adder, -, hbytes, -, hlength, hdistance⟩ := hrows _ List.mem_cons_self
  obtain rfl := Cell.blob.inj hbytes
  rw [Embedding.decode_encode] at hlength
  refine hdistance ?_ [.one, .zero] rfl
  rw [← hlength]
  decide

/-- **A length that is not that of the store.**  The row has one number, the store asks for two. -/
theorem not_uniform_widened : ¬ Session.widened.Uniform := by
  intro h
  obtain ⟨bytes, hbytes, hlength⟩ := h "r" _ _ _ Session.handle?_widened Session.connection_widened
    (by rfl) (.ofItem (.ofEmbedding "a" [.one])) List.mem_cons_self
  obtain rfl := Cell.blob.inj hbytes
  rw [Embedding.decode_encode] at hlength
  exact absurd hlength (by decide)

end HybridRetrieval
