import HybridRetrieval.Proofs.CommandLine.OpenedStore
import HybridRetrieval.Proofs.Session.HandleChoice
import HybridRetrieval.Proofs.Store.BatchImport
/-!
# The import command

The command opens a store before it looks at its input.  From there the rows depend on the input
alone (`Imported`): a line that is no record leaves them as they are, and otherwise they are those
of one addition, of all items or of those in the batches before the first that does not fit.  That
is so for the action on the store (`addFile_of_equipped`), and so for the command, which leaves the
rows that its action leaves (`import_stops_between_batches`).
-/

namespace HybridRetrieval.CommandLine

variable {d : Disk} {store : Store} {input content : String} {batchSize : Nat} {c : Connection}
  {items : List Item}

/-- A file with a line that is no record is refused, and nothing is added. -/
theorem addFile_of_error (hread : d.readText input = .ok content) {number : Nat}
    (hitems : itemsOfFile content = .error number) :
    addFile store d input batchSize c = (.failure (input ++ ":" ++ toString number), c) := by
  unfold addFile
  rw [hread]
  dsimp only
  rw [hitems]

/-- The items of a file are added in batches, and the command fails if one of these does. -/
theorem addFile_of_items (hread : d.readText input = .ok content)
    (hitems : itemsOfFile content = .ok items) {result : Except Error Unit} {next : Connection}
    (hbatches : store.addBatches (batchesOfSize batchSize items) c = (result, next)) :
    (addFile store d input batchSize c).1.exitCode = (if result = .ok () then 0 else 1) ∧
      (addFile store d input batchSize c).2 = next := by
  unfold addFile
  rw [hread]
  dsimp only
  rw [hitems]
  cases items with
  | nil =>
      rw [batchesOfSize, batches, Store.addBatches] at hbatches
      obtain ⟨rfl, rfl⟩ := Prod.mk.inj hbatches
      exact ⟨rfl, rfl⟩
  | cons item rest =>
      unfold addItems Action.telling
      dsimp only
      rw [hbatches]
      cases result <;> exact ⟨rfl, rfl⟩

/-- How an import of a file ends, in batches of at least one record: with which exit code, and with
which database beside the one that it found. -/
structure Imported (store : Store) (content : String) (batchSize : Nat) (found : Database)
    (exitCode : Nat) (made : Database) : Prop where
  refused : (∃ line ∈ recordLines content, Item.ofLine? line = none) → exitCode = 1 ∧ made = found
  stopped : ∀ items : List Item, (recordLines content).map Item.ofLine? = items.map some →
    ∀ place, items.findIdx? store.misfits = some place → exitCode = 1 ∧
      store.LikeAdded (items.take (max batchSize 1 * (place / max batchSize 1))) found made
  complete : ∀ items : List Item, (recordLines content).map Item.ofLine? = items.map some →
    items.findIdx? store.misfits = none → exitCode = 0 ∧ store.LikeAdded items found made

/-- **An import stops between batches.**  A file is refused as a whole, or its items are added up to
the first batch that does not fit. -/
theorem addFile_of_equipped {found : Database} (hequipped : Equipped store found)
    (hread : d.readText input = .ok content) (batchSize : Nat) :
    ∃ made, (addFile store d input batchSize (some found)).2 = some made ∧
      Imported store content batchSize found
        (addFile store d input batchSize (some found)).1.exitCode made := by
  cases hitems : itemsOfFile content with
  | error number =>
      have hnone : ∀ items : List Item,
          (recordLines content).map Item.ofLine? ≠ items.map some := by
        intro items hrecords
        rw [itemsOfFile_eq_ok_iff.mpr hrecords] at hitems
        cases hitems
      rw [addFile_of_error hread hitems]
      exact ⟨found, rfl, fun _ => ⟨rfl, rfl⟩, fun items hrecords => absurd hrecords (hnone items),
        fun items hrecords => absurd hrecords (hnone items)⟩
  | ok items =>
      obtain ⟨result, made, hbatches, hresult⟩ :=
        Store.addBatches_of_equipped hequipped batchSize items
      obtain ⟨hcode, hmade⟩ := addFile_of_items hread hitems hbatches
      rw [hcode]
      refine ⟨made, hmade, ?_, ?_, ?_⟩
      · intro hbad
        obtain ⟨line, hline, hnone⟩ := hbad
        obtain ⟨number, herror⟩ := itemsOfFile_of_not_record hline hnone
        rw [hitems] at herror
        cases herror
      · intro others hrecords place hplace
        obtain rfl := Except.ok.inj (hitems.symm.trans (itemsOfFile_eq_ok_iff.mpr hrecords))
        rw [hplace] at hresult
        exact ⟨if_neg hresult.1, hresult.2⟩
      · intro others hrecords hplace
        obtain rfl := Except.ok.inj (hitems.symm.trans (itemsOfFile_eq_ok_iff.mpr hrecords))
        rw [hplace] at hresult
        exact ⟨if_pos hresult.1, hresult.2⟩

/-- **The import command** adds to what its opening of the table leaves.  If a line that is not
blank is no record, it fails and adds nothing.  Otherwise it succeeds and leaves what the addition
of all items in one call leaves, or it fails at the first item whose embedding has another length,
and leaves what the addition of the items in the batches before it leaves.  (The input is read when
the store is open.) -/
theorem import_stops_between_batches {i : Invocation} {p : StoreParams} {number : Nat}
    {opened : Session} (hcommand : i.command = .add input batchSize)
    (hparams : i.general.storeParams d = .ok p) (hshaped : WellShaped (d.databaseOf p))
    (hopen : Session.openStore { disk := d } p = (.ok (store, number), opened))
    (hread : opened.disk.readText input = .ok content) :
    ∃ found made, opened.connection number = some found ∧
      store.OpenedOn (d.databaseOf p) found ∧
      (addFile store opened.disk input batchSize (some found)).2 = some made ∧
      (Session.isPrivate p.database = false → (i.run d).2.databaseOf p = made) ∧
      Imported store content batchSize found (i.run d).1.exitCode made := by
  obtain ⟨hstore, hfound, hstored⟩ := Session.openStore_ok hopen
  have hequipped := (hshaped.openOn p).2.2 store hstore
  have hrun : i.run d = withStore d p fun s d => addFile s d input batchSize := by
    simp only [Invocation.run, hparams, Invocation.runWith, hcommand]
  obtain ⟨hexit, hdisk⟩ := withStore_opened hopen fun s d => addFile s d input batchSize
  rw [← hrun, hfound] at hexit hdisk
  obtain ⟨made, hmade, himported⟩ := addFile_of_equipped hequipped hread batchSize
  refine ⟨_, made, hfound, openedOn_of_openOn hstore, hmade, ?_, hexit ▸ himported⟩
  intro hfile
  rw [hdisk, ← hstored made hfile]
  exact congrArg (fun c => (opened.setConnection number c).disk.databaseOf p) hmade

/-- Imports a file in batches of two. -/
def pairwise (hybrid : Bool) : Invocation :=
  ⟨{ overrides := { database := some "d", tableName := some "t", embedDim := some 0,
                    hybridSearch := hybrid } }, .add "in.jsonl" 2⟩

/-- Four records and a blank line; the embedding of the last record has another length. -/
def unevenFile : String :=
  "\x7b\"id\":\"a\",\"text\":\"\",\"embedding\":[]\x7d\n" ++
  "\x7b\"id\":\"b\",\"text\":\"\",\"embedding\":[]\x7d\n\n" ++
  "\x7b\"id\":\"c\",\"text\":\"\",\"embedding\":[]\x7d\n" ++
  "\x7b\"id\":\"d\",\"text\":\"\",\"embedding\":[0]\x7d\n"

/-- A disk with nothing but the file. -/
def withUnevenFile : Disk := ⟨[(["in.jsonl"], .text unevenFile)]⟩

/-- The third record is lost with the fourth one. -/
theorem import_stops_withUnevenFile :
    ((pairwise false).run withUnevenFile).1.exitCode = 1 ∧
    ∃ items : List Item, (recordLines unevenFile).map Item.ofLine? = items.map some ∧
      items.map Item.id = ["a", "b", "c", "d"] ∧
      ∃ found, Store.LikeAdded ⟨⟨"data_t", "data_t_lexemes"⟩, .inFile 0⟩ (items.take 2) found
        (((pairwise false).run withUnevenFile).2.databaseOf (.inFile 0)) := by
  have hparams : (pairwise false).general.storeParams withUnevenFile = .ok (.inFile 0) := by
    decide +kernel
  have hopen : Session.openStore { disk := withUnevenFile } (.inFile 0) =
      (.ok (⟨⟨"data_t", "data_t_lexemes"⟩, .inFile 0⟩, 0),
        (Session.openStore { disk := withUnevenFile } (.inFile 0)).2) :=
    Prod.ext (by decide +kernel) rfl
  have hread : (Session.openStore { disk := withUnevenFile } (.inFile 0)).2.disk.readText
      "in.jsonl" = .ok unevenFile := by decide +kernel
  obtain ⟨items, hrecords, hids, hplace⟩ : ∃ items : List Item,
      (recordLines unevenFile).map Item.ofLine? = items.map some ∧
        items.map Item.id = ["a", "b", "c", "d"] ∧
        items.findIdx? (Store.misfits ⟨⟨"data_t", "data_t_lexemes"⟩, .inFile 0⟩) = some 3 :=
    ⟨_, (exists_not_record_or_items unevenFile).resolve_left (by decide +kernel),
      by decide +kernel⟩
  obtain ⟨found, made, -, -, -, hmade, himported⟩ :=
    import_stops_between_batches rfl hparams wellShaped_empty hopen hread
  obtain ⟨hcode, hadded⟩ := himported.stopped items hrecords 3 hplace
  refine ⟨hcode, items, hrecords, hids, found, ?_⟩
  rw [hmade (by decide)]
  exact hadded

/-- A disk with a table that has no index, and a file with a line that is no record. -/
def withPlainTable : Disk :=
  ⟨[(["d"], .database ⟨[("data_t", .data [.ofItem (.ofText "a" "fox")])], ["idx_data_t_ref_doc"]⟩),
    (["in.jsonl"], .text "x\n")]⟩

/-- **A failed import can change the index**: the table is opened as hybrid for the first time, and
so its index is made before the file is read. -/
theorem import_fills_index_withPlainTable :
    (∃ line ∈ recordLines "x\n", Item.ofLine? line = none) ∧
    ((pairwise true).run withPlainTable).1.exitCode = 1 ∧
    indexRows? ⟨"data_t", "data_t_lexemes"⟩ (withPlainTable.databaseOf (.inFile 0)) = none ∧
    indexRows? ⟨"data_t", "data_t_lexemes"⟩
      (((pairwise true).run withPlainTable).2.databaseOf (.inFile 0)) = some [⟨"a", "fox", 1⟩] ∧
    ¬ SameRows ⟨"data_t", "data_t_lexemes"⟩ (some (withPlainTable.databaseOf (.inFile 0)))
      (some (((pairwise true).run withPlainTable).2.databaseOf (.inFile 0))) := by
  have hbefore : indexRows? ⟨"data_t", "data_t_lexemes"⟩ (withPlainTable.databaseOf (.inFile 0)) =
      none := by decide +kernel
  have hafter : indexRows? ⟨"data_t", "data_t_lexemes"⟩
      (((pairwise true).run withPlainTable).2.databaseOf (.inFile 0)) = some [⟨"a", "fox", 1⟩] := by
    decide +kernel
  refine ⟨⟨['x'], by decide +kernel, by rfl⟩, by decide +kernel, hbefore, hafter, ?_⟩
  intro hsame
  have hindexes := hsame.2
  rw [Option.bind_some, Option.bind_some, hbefore, hafter] at hindexes
  cases hindexes

end HybridRetrieval.CommandLine
