import HybridRetrieval.Proofs.Session.Run
import HybridRetrieval.Proofs.Store.Equipped
import HybridRetrieval.Proofs.Store.Served
/-!
# What any run leaves behind

Nothing is asked of the operations of a run: stores are opened under any names, also names that get
in each other's way, with any parameters and on any database, and anything is written through any
handle.  From empty databases on, every open handle finds a data table, and what it holds is a stock
(`Session.Run.stock`).  When cells of files are edited in between, the rows need be no items' any
more, but the tables are still there, and so is the index of a hybrid store
(`Session.EditedRun.equipped`).
-/

namespace HybridRetrieval

/-- A run of any operations. -/
abbrev Session.AnyRun (start s : Session) : Prop :=
  Session.Run (fun _ => True) (fun _ _ _ => True) start s

/-- Any operation may occur in such a run. -/
theorem Session.permits_any (s : Session) (op : Operation) :
    s.Permits (fun _ => True) (fun _ _ _ => True) op := by
  cases op <;> simp [Session.Permits]

/-- Operations performed one after the other are a run. -/
theorem Session.anyRun_foldl (ops : List Operation) (start : Session) :
    start.AnyRun (ops.foldl Session.perform start) := by
  have hall : ∀ s, start.AnyRun s → start.AnyRun (ops.foldl Session.perform s) := by
    induction ops with
    | nil => exact fun _ run => run
    | cons op rest ih =>
        intro s run
        exact ih (s.perform op) (.step run (s.permits_any op))
  exact hall start .refl

/-- Whatever stores do keeps databases well, and each store its data table. -/
theorem maintained_wellKept :
    Session.Maintained WellKept
      (fun store db => ∃ rows, db.table? store.names.data = some (.data rows))
      (fun _ => True) (fun _ _ _ => True) where
  empty := wellKept_empty
  opening := by
    intro p db _ h
    obtain ⟨hmade, hkept, hopened⟩ := h.openOn p
    exact ⟨hmade, hopened, fun other ⟨rows, hrows⟩ => hkept _ rows hrows⟩
  writing := by
    intro store db w c h _ _ hdone
    obtain ⟨made, -, rfl, hmade, hkept, -⟩ := h.write hdone
    exact ⟨made, rfl, hmade, fun other ⟨rows, hrows⟩ => hkept _ rows hrows⟩

/-- **Every open handle has a stock**, in every state of every run. -/
theorem Session.Run.stock {start s : Session} (hstart : start.Fresh) (run : start.AnyRun s)
    {name : String} {handle : Store × Nat} (hhandle : s.handle? name = some handle) {db : Database}
    (hdb : s.connection handle.2 = some db) :
    ∃ stored, db.table? handle.1.names.data = some (.data stored) ∧ IsStock stored := by
  have hupheld := run.upheld_of_fresh maintained_wellKept hstart
  obtain ⟨stored, hstored⟩ := (hupheld.handles name handle hhandle).2 db hdb
  have hkept := hupheld.good_of_has wellKept_empty (Or.inr ⟨_, hdb⟩)
  exact ⟨stored, hstored, hkept.stocks _ stored hstored⟩

/-- Whatever stores do keeps databases in shape, and for each store the tables that it works on. -/
theorem maintained_equipped :
    Session.Maintained WellShaped Equipped (fun _ => True) (fun _ _ _ => True) where
  empty := wellShaped_empty
  opening := by
    intro p db _ h
    obtain ⟨hmade, hkinds, hopened⟩ := h.openOn p
    exact ⟨hmade, hopened, fun other hother => hother.of_kinds hkinds⟩
  writing := by
    intro store db w c h hequipped _ hdone
    obtain ⟨rows, hrows⟩ := hequipped.data
    obtain ⟨-, made, rfl, hleaves⟩ := Store.leaves_of_write hequipped hrows hdone
    have hkinds := hleaves.keepsKinds hequipped hrows
    exact ⟨made, rfl, h.of_kinds hkinds hleaves.indexes, fun other hother => hother.of_kinds hkinds⟩

/-- What openings and permitted writes keep of a database is kept beside the tables that stores work
on. -/
theorem maintained_beside_of {good : Database → Prop} {writes : Store → Database → Write → Prop}
    (hempty : good .empty) (hopen : ∀ p db, good db → good (Store.openOn p db).2)
    (hwrite : ∀ {s : Store} {w : Write} {rows : List DataRow} {db made : Database},
      Equipped s db → s.Leaves w rows db made → db.table? s.names.data = some (.data rows) →
        writes s db w → good db → good made) :
    Session.Maintained (fun db => WellShaped db ∧ good db) Equipped (fun _ => True) writes where
  empty := ⟨wellShaped_empty, hempty⟩
  opening := by
    intro p db _ ⟨hshaped, hgood⟩
    obtain ⟨hmade, hopened, hother⟩ := maintained_equipped.opening p db trivial hshaped
    exact ⟨⟨hmade, hopen p db hgood⟩, hopened, hother⟩
  writing := by
    intro store db w c ⟨hshaped, hgood⟩ hequipped hw hdone
    obtain ⟨made, rfl, hmade, hother⟩ :=
      maintained_equipped.writing store db w c hshaped hequipped trivial hdone
    obtain ⟨rows, hrows⟩ := hequipped.data
    obtain ⟨-, _, heq, hleaves⟩ := Store.leaves_of_write hequipped hrows hdone
    obtain rfl := Option.some.inj heq
    exact ⟨_, rfl, ⟨hmade, hwrite hequipped hleaves hrows hw hgood⟩, hother⟩

/-- The same where any write is permitted. -/
theorem maintained_beside {good : Database → Prop} (hempty : good .empty)
    (hopen : ∀ p db, good db → good (Store.openOn p db).2)
    (hwrite : ∀ {s : Store} {w : Write} {rows : List DataRow} {db made : Database},
      Equipped s db → s.Leaves w rows db made → db.table? s.names.data = some (.data rows) →
        good db → good made) :
    Session.Maintained (fun db => WellShaped db ∧ good db) Equipped (fun _ => True)
      (fun _ _ _ => True) :=
  maintained_beside_of hempty hopen fun hequipped hleaves hrows _ => hwrite hequipped hleaves hrows

/-! ## Edits -/

/-- What an edit leaves: other rows in a data table that was there. -/
theorem Database.edit_ok {db made : Database} {table id : String} {column : DataColumn}
    {cell : Cell} {changed : Nat} (h : db.edit table id column cell = .ok (changed, made)) :
    ∃ name rows next, db.table? name = some (.data rows) ∧ made = db.put name (.data next) := by
  obtain ⟨names, -, h⟩ := bind_eq_ok_iff.mp h
  obtain ⟨rows, hrows, h⟩ := bind_eq_ok_iff.mp h
  dsimp only at h
  split at h
  · cases h
  · exact ⟨_, rows, _, table?_of_dataRows hrows, (Prod.mk.inj (Except.ok.inj h)).2.symm⟩

namespace Session

/-- The sessions that operations lead to if cells of files may be edited in between. -/
inductive EditedRun (start : Session) : Session → Prop
  | refl : EditedRun start start
  | step {s : Session} (run : EditedRun start s) (op : Operation) : EditedRun start (s.perform op)
  | edit {s next : Session} {database table id : String} {column : DataColumn} {cell : Cell}
      {changed : Nat} (run : EditedRun start s)
      (done : s.edit database table id column cell = .ok (changed, next)) : EditedRun start next

/-- A run without edits is one in which there might have been some. -/
theorem Run.edited {start s : Session} (run : start.AnyRun s) : EditedRun start s := by
  induction run with
  | refl => exact .refl
  | step _ _ ih => exact ih.step _

/-- **An edit** keeps what holds, if the edited database is good and whatever store fitted it still
does. -/
theorem Upheld.editWith {good : Database → Prop} {fits : Store → Database → Prop} {s next : Session}
    (h : s.Upheld good fits) {database table id : String} {column : DataColumn} {cell : Cell}
    {changed : Nat} (hkept : ∀ db count made, good db →
      db.edit table id column cell = .ok (count, made) →
        good made ∧ ∀ store, fits store db → fits store made)
    (done : s.edit database table id column cell = .ok (changed, next)) :
    next.Upheld good fits := by
  obtain ⟨db, hdb, done⟩ := bind_eq_ok_iff.mp done
  obtain ⟨⟨count, made⟩, hedit, done⟩ := bind_eq_ok_iff.mp done
  obtain ⟨-, rfl⟩ := Prod.mk.inj (Except.ok.inj done)
  -- the empty database has no table to edit
  have hold : s.disk.find? (Disk.databaseLocation database) = some (.database db) := by
    rcases (Disk.databaseAt_ok hdb).2 with hfound | ⟨-, rfl⟩
    · exact hfound
    · obtain ⟨name, rows, -, hrows, -⟩ := Database.edit_ok hedit
      cases hrows
  obtain ⟨hgood, hstill⟩ := hkept db count made (h.files _ db hold) hedit
  exact h.putFile hold hgood hstill

/-- An edit leaves the tables their kinds. -/
theorem keepsKinds_of_edit {db made : Database} {table id : String} {column : DataColumn}
    {cell : Cell} {changed : Nat} (h : db.edit table id column cell = .ok (changed, made)) :
    KeepsKinds db made ∧ made.indexes = db.indexes := by
  obtain ⟨name, rows, after, hrows, rfl⟩ := Database.edit_ok h
  refine ⟨.put fun old hother => ?_, rfl⟩
  rw [hrows] at hother
  rw [← Option.some.inj hother]
  rfl

/-- **An edit** leaves every store its tables. -/
theorem Upheld.edit {s next : Session} (h : s.Upheld WellShaped Equipped)
    {database table id : String} {column : DataColumn} {cell : Cell} {changed : Nat}
    (done : s.edit database table id column cell = .ok (changed, next)) :
    next.Upheld WellShaped Equipped := by
  refine h.editWith (fun db count made hshaped hedit => ?_) done
  obtain ⟨hkinds, hindexes⟩ := keepsKinds_of_edit hedit
  exact ⟨hshaped.of_kinds hkinds hindexes, fun store hstore => hstore.of_kinds hkinds⟩

/-- **Every open handle has its tables**, in every state of every run and also after edits. -/
theorem EditedRun.equipped {start s : Session} (hstart : start.Fresh) (run : EditedRun start s) :
    s.Upheld WellShaped Equipped := by
  induction run with
  | refl => exact .of_fresh hstart wellShaped_empty
  | step _ op ih => exact ih.perform maintained_equipped (permits_any _ op)
  | edit _ done ih => exact ih.edit done

/-- **What operations and edits keep** of databases, beside the tables that stores work on, holds in
every state of every run. -/
theorem EditedRun.upheld_beside {good : Database → Prop}
    (hkept : Maintained (fun db => WellShaped db ∧ good db) Equipped (fun _ => True)
      (fun _ _ _ => True))
    (hedit : ∀ {db made : Database} {table id : String} {column : DataColumn} {cell : Cell}
      {changed : Nat}, good db → db.edit table id column cell = .ok (changed, made) → good made)
    {start s : Session} (hstart : start.Upheld (fun db => WellShaped db ∧ good db) Equipped)
    (run : EditedRun start s) : s.Upheld (fun db => WellShaped db ∧ good db) Equipped := by
  induction run with
  | refl => exact hstart
  | step _ op ih => exact ih.perform hkept (permits_any _ op)
  | edit _ done ih =>
      refine ih.editWith (fun db count made ⟨hshaped, hgood⟩ hdone => ?_) done
      obtain ⟨hkinds, hindexes⟩ := keepsKinds_of_edit hdone
      exact ⟨⟨hshaped.of_kinds hkinds hindexes, hedit hgood hdone⟩,
        fun store hstore => hstore.of_kinds hkinds⟩

end Session

/-! ## Samples -/

/-- A store in memory for embeddings of the given length. -/
def Store.ofDimension (embedDim : Nat) : Store :=
  ⟨⟨"data_t", "data_t_lexemes"⟩, { StoreParams.inMemory "t" with embedDim := embedDim }⟩

/-- What a store in a file is opened with, for embeddings of the given length. -/
def StoreParams.inFile (embedDim : Nat) : StoreParams :=
  { database := "d", tableName := "t", embedDim := embedDim }

/-- A session in which such a store in memory is opened and given items. -/
def Session.ofItems (embedDim : Nat) (items : List Item) : Session :=
  [Operation.openStore "h" (Store.ofDimension embedDim).params, .write "h" (.add items)].foldl
    Session.perform { disk := .empty }

/-- A session in which a hybrid store in memory is opened and given items. -/
def Session.ofHybrid (items : List Item) : Session :=
  [Operation.openStore "h" (Store.ofAnalyzer .english).params, .write "h" (.add items)].foldl
    Session.perform { disk := .empty }

/-- A database with items and their index. -/
def Database.ofHybrid (items : List Item) : Database :=
  ⟨[("data_t", .data (items.map DataRow.ofItem)),
    ("data_t_lexemes", .lexemes ((Write.add items).reindex .english [] []))],
    ["idx_data_t_ref_doc", "idx_data_t_lexemes_lexeme"]⟩

end HybridRetrieval
