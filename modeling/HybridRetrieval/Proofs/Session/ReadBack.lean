import HybridRetrieval.Proofs.Session.Effects
import HybridRetrieval.Proofs.Session.Readable
import HybridRetrieval.Proofs.Store.Upserts
/-!
# What is stored is what is read back

An item that was added last for its identifier stays in its table as long as no write to the table
adds the identifier again or deletes the document of the item (`Write.Spares`).  What happens to
other tables and databases does not matter, nor do failures, and a database in a file may be closed
and opened again in the meantime (`Session.Sparing`).

The account of the table that goes through such operations is `Session.Keeps`: it is set up by the
addition and kept by every operation.  Whoever has the table open at the end reads the item back as
it was, if its nesting and its numbers allow it (`get_of_sparing`).
-/

namespace HybridRetrieval

/-- A write that neither adds the identifier of an item nor deletes its document. -/
def Write.Spares (item : Item) : Write → Prop
  | add new => ∀ other ∈ new, other.id ≠ item.id
  | delete docId => item.isOfDocument docId = false

/-- A write that spares a stored item leaves its row. -/
theorem Write.first?_of_spares {item : Item} {rows : List DataRow} {w : Write}
    (hspares : w.Spares item) (h : DataRow.first? (.text item.id) rows = some (.ofItem item)) :
    DataRow.first? (.text item.id) (w.rowsAfter rows) = some (.ofItem item) := by
  cases w with
  | add new =>
      rw [first?_add, Item.last?_eq_none_iff.mpr hspares, h]
      rfl
  | delete docId =>
      have hother : item.isOfDocument docId = false := hspares
      refine DataRow.first?_filter h ?_
      rw [DataRow.isOfDocument_ofItem, hother]
      rfl

namespace Session

/-- What operations lead to that spare an item in a data table at a site. -/
inductive Sparing (site : Site) (table : String) (item : Item) (start : Session) : Session → Prop
  | refl : Sparing site table item start start
  | step {s : Session} {op : Operation} (sparing : Sparing site table item start s)
      (spares : ∀ store w, s.change? site table op = some (store, w) → w.Spares item) :
      Sparing site table item start (s.perform op)

/-- Operations among which no write adds the identifier or deletes the document, to whatever table,
spare the item. -/
theorem sparing_foldl (site : Site) (table : String) {item : Item} {ops : List Operation}
    (h : ∀ name w, Operation.write name w ∈ ops → w.Spares item) (start : Session) :
    Sparing site table item start (ops.foldl perform start) := by
  have hall : ∀ s, Sparing site table item start s →
      Sparing site table item start (ops.foldl perform s) := by
    induction ops with
    | nil => exact fun _ sparing => sparing
    | cons op rest ih =>
        intro s sparing
        refine ih (fun name w hmem => h name w (List.mem_cons_of_mem _ hmem)) _ (.step sparing ?_)
        intro store w hchange
        obtain ⟨name, -, -, rfl, -⟩ := exists_of_written (Option.filter_eq_some_iff.mp hchange).1
        exact h name w List.mem_cons_self
  exact hall start .refl

/-- The site has been used, and as long as there is a database its table has the item. -/
structure Keeps (site : Site) (table : String) (item : Item) (s : Session) : Prop where
  equipped : s.Upheld WellShaped Equipped
  used : s.Used site
  stored : ∀ db, s.databaseAt? site = some db →
    DataRow.first? (.text item.id) (s.rowsAt site table) = some (.ofItem item)

variable {site : Site} {table : String} {item : Item}

/-- **An operation that spares the item** keeps it. -/
theorem Keeps.perform {s : Session} (h : s.Keeps site table item) {op : Operation}
    (hspares : ∀ store w, s.change? site table op = some (store, w) → w.Spares item) :
    (s.perform op).Keeps site table item where
  equipped := h.equipped.perform maintained_equipped (s.permits_any op)
  used := h.equipped.used_perform h.used op
  stored := by
    intro made hmade
    obtain ⟨db, hdb⟩ := h.equipped.exists_of_perform h.used hmade
    rcases h.equipped.rowsAt_perform site table op with
      ⟨store, w, hchange, -, hafter⟩ | ⟨-, hsame | hgone⟩
    · rw [hafter]
      exact Write.first?_of_spares (hspares store w hchange) (h.stored db hdb)
    · rw [hsame]
      exact h.stored db hdb
    · rw [hgone] at hmade
      cases hmade

/-- Operations that spare the item keep it. -/
theorem Keeps.of_sparing {start s : Session} (h : start.Keeps site table item)
    (hsparing : Sparing site table item start s) : s.Keeps site table item := by
  induction hsparing with
  | refl => exact h
  | step _ spares ih => exact ih.perform spares

/-- **Adding an item**, as the last one for its identifier, sets the account up. -/
theorem EditedRun.keeps {start s : Session} (hstart : start.Fresh) (run : EditedRun start s)
    {name : String} {handle : Store × Nat} (hhandle : s.handle? name = some handle)
    (hsite : s.site? handle.2 = some site) {new : List Item}
    (hfits : (Write.add new).Fits handle.1.params.embedDim)
    (hlast : Item.last? item.id new = some item) :
    (s.perform (.write name (.add new))).Keeps site handle.1.names.data item := by
  have hequipped := run.equipped hstart
  obtain ⟨db, rows, hconnection, hdb, htables, hrows, -⟩ := hequipped.exists_tables hhandle hsite
  obtain ⟨made, hwrite, hleaves⟩ := Store.write_of_equipped htables hrows hfits
  have hmade : (s.perform (.write name (.add new))).databaseAt? site = some made := by
    rw [← hconnection] at hwrite
    rw [perform_write hhandle, writeThrough_ok hwrite, hequipped.databaseAt?_setConnection hsite,
      if_pos rfl]
  refine ⟨hequipped.perform maintained_equipped (s.permits_any _), ?_, ?_⟩
  · have hused : s.Used site := by
      by_contra hunused
      rw [databaseAt?_of_unused hunused] at hdb
      cases hdb
    exact hequipped.used_perform hused _
  · intro _ _
    rw [rowsAt_eq hmade, Database.rowsOf_eq hleaves.data, Write.first?_add, hlast]
    rfl

end Session

/-- **What is stored is what is read back.**  In any state an item is added through an open handle,
the last one for its identifier.  After any operations that spare it, every handle on the same table
of the same database gets the very item: its node and, bit for bit, its embedding. -/
theorem get_of_sparing {start s : Session} (hstart : start.Fresh) (run : Session.EditedRun start s)
    {name : String} {handle : Store × Nat} (hhandle : s.handle? name = some handle) {site : Site}
    (hsite : s.site? handle.2 = some site) {new : List Item}
    (hfits : ∀ other ∈ new, other.embedding.length = handle.1.params.embedDim) {item : Item}
    (hlast : Item.last? item.id new = some item) (hdepth : item.node.WithinDepth)
    (hsurvives : item.node.Survives) {later : Session}
    (hlater : Session.Sparing site handle.1.names.data item
      (s.perform (.write name (.add new))) later)
    {reader : String} {found : Store × Nat} (hreader : later.handle? reader = some found)
    (hopen : later.site? found.2 = some site)
    (htable : found.1.names.data = handle.1.names.data) :
    found.1.get item.id (later.connection found.2) = .ok (some item) := by
  have hkeeps := (run.keeps hstart hhandle hsite hfits hlast).of_sparing hlater
  obtain ⟨db, rows, hconnection, hdb, -, hrows, hsame⟩ :=
    hkeeps.equipped.exists_tables hreader hopen
  have hfirst := hkeeps.stored db hdb
  rw [← htable, hsame] at hfirst
  have hnode : (DataRow.ofItem item).toNode = .ok item.node := by
    rw [DataRow.toNode_ofItem hdepth, Node.reread_of_survives hsurvives]
  rw [hconnection, Store.get_of_find? hrows hfirst, DataRow.toItem_ofItem hnode]
  rfl

/-- An item from a document, with a number in its metadata. -/
def Item.weighted : Item :=
  ⟨{ id := "a", text := "\"red\" fox"
     metadata := ⟨[("weight", .number (.real ⟨0x3fe0000000000000⟩ (by decide)))],
       by simp [Json.Ordered, Json.OrderedMembers]⟩
     relationships := { source := some { nodeId := "doc" } } }, [.one]⟩

/-- One half survives. -/
theorem Item.survives_weighted : Item.weighted.node.Survives where
  metadata := by
    have hnumber : (Json.Number.real ⟨0x3fe0000000000000⟩ (by decide)).reread =
        .real ⟨0x3fe0000000000000⟩ (by decide) := by decide +kernel
    exact ⟨by rw [Json.Survives]; exact hnumber, trivial⟩
  related := by
    intro r node hnode
    cases r with
    | source =>
        obtain rfl := Option.some.inj hnode
        trivial
    | previous | next | parent | child => cases hnode

/-- A session in which a store in a file is opened. -/
def Session.withFile : Session :=
  [Operation.openStore "h" (.inFile 1)].foldl Session.perform { disk := .empty }

/-- The same session after the item was added and the file closed, opened again and written to. -/
def Session.reopened : Session :=
  [Operation.close "h", .openStore "r" (.inFile 1), .write "r" (.add [.ofEmbedding "b" [.one]]),
    .write "r" (.delete "other")].foldl Session.perform
      (Session.withFile.perform (.write "h" (.add [.weighted])))

/-- The item is read back from the file. -/
theorem get_of_sparing_reopened :
    (⟨⟨"data_t", "data_t_lexemes"⟩, .inFile 1⟩ : Store).get Item.weighted.id
      (Session.reopened.connection 1) = .ok (some .weighted) := by
  have hrun : Session.EditedRun { disk := .empty } Session.withFile :=
    (Session.anyRun_foldl _ _).edited
  have hhandle : Session.withFile.handle? "h" =
      some (⟨⟨"data_t", "data_t_lexemes"⟩, .inFile 1⟩, 0) := by decide +kernel
  have hsite : Session.withFile.site? 0 = some (.file ["d"]) := by decide +kernel
  have hfits : ∀ other ∈ [Item.weighted], other.embedding.length = 1 := by
    intro other hother
    rw [List.mem_singleton.mp hother]
    rfl
  have hlast : Item.last? Item.weighted.id [Item.weighted] = some .weighted := by rfl
  have hdepth : Item.weighted.node.WithinDepth := ⟨by decide +kernel, by decide +kernel⟩
  have hsparing : Session.Sparing (.file ["d"]) "data_t" .weighted
      (Session.withFile.perform (.write "h" (.add [.weighted]))) Session.reopened := by
    refine Session.sparing_foldl _ _ ?_ _
    intro name w hwrite
    simp only [List.mem_cons, List.not_mem_nil, or_false, reduceCtorEq, false_or,
      Operation.write.injEq] at hwrite
    rcases hwrite with ⟨-, rfl⟩ | ⟨-, rfl⟩
    · intro other hother
      rw [List.mem_singleton.mp hother]
      decide
    · rfl
  have hreader : Session.reopened.handle? "r" =
      some (⟨⟨"data_t", "data_t_lexemes"⟩, .inFile 1⟩, 1) := by decide +kernel
  have hopen : Session.reopened.site? 1 = some (.file ["d"]) := by decide +kernel
  have hget := get_of_sparing Session.fresh_empty hrun hhandle hsite hfits hlast hdepth
    Item.survives_weighted hsparing hreader hopen rfl
  exact hget

end HybridRetrieval
