import HybridRetrieval.Proofs.Disk.TextFiles
import HybridRetrieval.Proofs.Toml.EntryLines
import HybridRetrieval.Settings.Stored
/-!
# Settings read back

The file of settings has a line for every setting that is set (`settingLines`).  Every line is
readable and no key stands twice, so the document is read as these entries and each setting is found
under its key (`parse?_render`).  On a disk, what was written is what is loaded, and where writing
is refused the disk stays as it is.
-/

namespace HybridRetrieval.Settings

open Toml (EntryLine Spells)

/-! ## The lines of the file -/

/-- The line of a setting, if it is set. -/
def settingLine {α : Type} (key : String) (write : α → List Char) (value : α → Toml) :
    Option α → List EntryLine
  | none => []
  | some x => [⟨key, write x, value x⟩]

/-- The lines of the settings that are set. -/
def settingLines (s : Settings) : List EntryLine :=
  settingLine "database" Toml.writeString .string s.database ++
    settingLine "table_name" Toml.writeString .string s.tableName ++
    settingLine "embed_dim" Decimal.digitChars (fun n => .integer n) s.embedDim ++
    settingLine "hybrid_search" writeBoolean .boolean s.hybridSearch ++
    settingLine "text_search_config" (fun a => Toml.writeString a.name) (fun a => .string a.name)
      s.analyzer

section SettingLine

variable {α : Type} (key : String) (write : α → List Char) (value : α → Toml)

theorem flatMap_settingLine (x : Option α) :
    (settingLine key write value x).flatMap EntryLine.chars = line key write x := by
  cases x with
  | none => rfl
  | some x => exact List.flatMap_singleton _ _

theorem lookup_settingLine (name : String) (x : Option α) :
    ((settingLine key write value x).map EntryLine.entry).lookup name =
      if name = key then x.map value else none := by
  cases x with
  | none => simp [settingLine]
  | some x => by_cases h : name = key <;> simp [settingLine, EntryLine.entry, h]

theorem map_key_settingLine (x : Option α) :
    ((settingLine key write value x).map EntryLine.key).Sublist [key] := by
  cases x with
  | none => exact List.nil_sublist _
  | some x => exact List.Sublist.refl _

variable {key write value}

theorem isReadable_of_mem_settingLine (hne : key.toList ≠ [])
    (hbare : key.toList.all Toml.isBareKeyChar = true) {x : Option α}
    (h : ∀ y, x = some y → Spells (write y) (value y)) {l : EntryLine}
    (hl : l ∈ settingLine key write value x) : l.IsReadable := by
  cases x with
  | none => cases hl
  | some x =>
      rw [settingLine, List.mem_singleton] at hl
      subst hl
      exact ⟨hne, List.all_eq_true.mp hbare, h x rfl⟩

end SettingLine

/-! ## The document -/

theorem toList_render (s : Settings) :
    s.render.toList = s.settingLines.flatMap EntryLine.chars := by
  simp only [render, settingLines, String.toList_ofList, List.flatMap_append, flatMap_settingLine]

/-- The text of a truth value spells it. -/
theorem spells_boolean (b : Bool) : Spells (writeBoolean b) (.boolean b) := by
  cases b with
  | true => exact Toml.spells_true
  | false => exact Toml.spells_false

/-- Every line of the file is readable if the number is one that the file can hold. -/
theorem isReadable_settingLines {s : Settings} (h : s.isWritable = true) :
    ∀ l ∈ s.settingLines, l.IsReadable := by
  have hdim : ∀ n, s.embedDim = some n → isSigned64 n = true := by
    intro n hn
    rw [isWritable, hn, decide_eq_true_eq, maxInteger, signedBound] at h
    rw [isSigned64, signedBound, Bool.and_eq_true, decide_eq_true_eq, decide_eq_true_eq]
    omega
  simp only [settingLines, List.mem_append]
  rintro l ((((hl | hl) | hl) | hl) | hl)
  · exact isReadable_of_mem_settingLine (by decide) (by decide)
      (fun x _ => Toml.spells_string x) hl
  · exact isReadable_of_mem_settingLine (by decide) (by decide)
      (fun x _ => Toml.spells_string x) hl
  · exact isReadable_of_mem_settingLine (by decide) (by decide)
      (fun n hn => Toml.spells_integer (hdim n hn)) hl
  · exact isReadable_of_mem_settingLine (by decide) (by decide)
      (fun b _ => spells_boolean b) hl
  · exact isReadable_of_mem_settingLine (by decide) (by decide)
      (fun a _ => Toml.spells_string a.name) hl

/-- No key stands twice in the file. -/
theorem nodup_keys_settingLines (s : Settings) : (s.settingLines.map EntryLine.key).Nodup := by
  have hkeys : (s.settingLines.map EntryLine.key).Sublist
      (["database"] ++ ["table_name"] ++ ["embed_dim"] ++ ["hybrid_search"] ++
        ["text_search_config"]) := by
    simp only [settingLines, List.map_append]
    exact ((((map_key_settingLine _ _ _ _).append (map_key_settingLine _ _ _ _)).append
      (map_key_settingLine _ _ _ _)).append (map_key_settingLine _ _ _ _)).append
      (map_key_settingLine _ _ _ _)
  exact hkeys.nodup (by decide)

/-- A setting is found under its key with what its value is read as. -/
theorem setting?_of_lookup {α : Type} {entries : Toml.Entries} {key : String} (x : Option α)
    (value : α → Toml) {read : Toml → Option α} (h : entries.lookup key = x.map value)
    (hread : ∀ y, read (value y) = some y) : setting? entries key read = some x := by
  cases x with
  | none => rw [setting?, h]; rfl
  | some x => rw [setting?, h]; simp [hread]

/-- **The entries of the file stand for the settings.** -/
theorem ofToml?_settingLines (s : Settings) :
    ofToml? (s.settingLines.map EntryLine.entry) = some s := by
  have hlookup : ∀ key, (s.settingLines.map EntryLine.entry).lookup key =
      (((((if key = "database" then s.database.map Toml.string else none).or
        (if key = "table_name" then s.tableName.map Toml.string else none)).or
        (if key = "embed_dim" then s.embedDim.map (fun n : Nat => Toml.integer n) else none)).or
        (if key = "hybrid_search" then s.hybridSearch.map Toml.boolean else none)).or
        (if key = "text_search_config" then s.analyzer.map (Toml.string ·.name) else none)) := by
    intro key
    simp only [settingLines, List.map_append, List.lookup_append, lookup_settingLine]
  have hanalyzer : ∀ a : Analyzer, ofAnalyzer? (.string a.name) = some a := by
    intro a
    cases a <;> rfl
  rw [ofToml?,
    setting?_of_lookup s.database .string (by simp [hlookup]) fun _ => rfl,
    setting?_of_lookup s.tableName .string (by simp [hlookup]) fun _ => rfl,
    setting?_of_lookup s.embedDim (fun n => .integer n) (by simp [hlookup])
      fun n => by simp [ofInteger?],
    setting?_of_lookup s.hybridSearch .boolean (by simp [hlookup]) fun _ => rfl,
    setting?_of_lookup s.analyzer (fun a => .string a.name) (by simp [hlookup]) hanalyzer]
  rfl

/-- **The text of settings is read back as the settings.** -/
theorem parse?_render {s : Settings} (h : s.isWritable = true) : parse? s.render = some s := by
  rw [parse?, toList_render,
    EntryLine.read?_chars (isReadable_settingLines h) (nodup_keys_settingLines s),
    Option.bind_some, ofToml?_settingLines]

/-! ## On a disk -/

/-- Only a number beyond the integers of 64 bits keeps settings from being written. -/
theorem isWritable_eq_false_iff {s : Settings} :
    s.isWritable = false ↔ ∃ n, s.embedDim = some n ∧ 2 ^ 63 ≤ n := by
  rw [isWritable]
  cases s.embedDim with
  | none => simp
  | some n =>
      have hbound : n ≤ maxInteger ↔ n < 2 ^ 63 := by
        rw [maxInteger, signedBound]
        omega
      simp [hbound]

section Writing

variable {d made : Disk} {path : String} {s : Settings} {force : Bool}

/-- A file that nothing forces to give way is checked for first, then the settings; only then the
disk is touched. -/
theorem write_cases (d : Disk) (path : String) (s : Settings) (force : Bool) :
    ((d.exists? path = true ∧ force = false) ∧
      write d path s force = .error (.alreadyThere path)) ∨
    (¬ (d.exists? path = true ∧ force = false) ∧ s.isWritable = false ∧
      write d path s force = .error .unwritable) ∨
    (¬ (d.exists? path = true ∧ force = false) ∧ s.isWritable = true ∧
      write d path s force = (d.writeText path s.render).mapError .disk) := by
  rw [write]
  cases d.exists? path <;> cases force <;> cases s.isWritable <;> simp

/-- Settings that are written can be written, and their text lies on the disk. -/
theorem write_ok (h : write d path s force = .ok made) :
    s.isWritable = true ∧ d.writeText path s.render = .ok made := by
  obtain ⟨-, hwrite⟩ | ⟨-, -, hwrite⟩ | ⟨-, hwritable, hwrite⟩ := write_cases d path s force
  · cases hwrite.symm.trans h
  · cases hwrite.symm.trans h
  · rw [hwrite, mapError_eq_ok_iff] at h
    exact ⟨hwritable, h⟩

/-- What is written is loaded again. -/
theorem load_of_write_ok (h : write d path s force = .ok made) : load made path = .ok (some s) := by
  obtain ⟨hwritable, htext⟩ := write_ok h
  rw [load, if_pos (Disk.exists_writeText htext), Disk.readText_writeText htext]
  simp only [parse?_render hwritable]

theorem mapError_disk_ne (path : String) (x : Except DiskError Disk) :
    x.mapError SettingsError.disk ≠ .error (.alreadyThere path) ∧
      x.mapError SettingsError.disk ≠ .error .unwritable := by
  cases x with
  | error why => exact ⟨nofun, nofun⟩
  | ok made => exact ⟨nofun, nofun⟩

theorem write_eq_alreadyThere_iff : write d path s force = .error (.alreadyThere path) ↔
    d.exists? path = true ∧ force = false := by
  obtain ⟨hthere, hwrite⟩ | ⟨hfree, -, hwrite⟩ | ⟨hfree, -, hwrite⟩ := write_cases d path s force
  · exact iff_of_true hwrite hthere
  · exact iff_of_false (by rw [hwrite]; nofun) hfree
  · exact iff_of_false (by rw [hwrite]; exact (mapError_disk_ne path _).1) hfree

theorem write_eq_unwritable_iff : write d path s force = .error .unwritable ↔
    ¬ (d.exists? path = true ∧ force = false) ∧ ∃ n, s.embedDim = some n ∧ 2 ^ 63 ≤ n := by
  rw [← isWritable_eq_false_iff]
  obtain ⟨hthere, hwrite⟩ | ⟨hfree, hnot, hwrite⟩ | ⟨hfree, hwritable, hwrite⟩ :=
    write_cases d path s force
  · exact iff_of_false (by rw [hwrite]; nofun) (fun h => h.1 hthere)
  · exact iff_of_true hwrite ⟨hfree, hnot⟩
  · exact iff_of_false (by rw [hwrite]; exact (mapError_disk_ne path _).2)
      (fun h => by rw [hwritable] at h; cases h.2)

end Writing

/-- The disk after an attempt to write settings. -/
def afterWriting (d : Disk) (path : String) (s : Settings) (force : Bool) : Disk :=
  match write d path s force with
  | .ok made => made
  | .error _ => d

/-- A refused attempt leaves the disk as it is. -/
theorem afterWriting_of_error {d : Disk} {path : String} {s : Settings} {force : Bool}
    {why : SettingsError} (h : write d path s force = .error why) :
    afterWriting d path s force = d := by
  rw [afterWriting, h]

/-- **Settings read back.**  What is written is loaded again, whatever the file held before.
Writing is refused if the file is there and nothing forces it, or else if the dimension is more
than a file can hold; the path then leads to what it led to before. -/
theorem load_write (d : Disk) (path : String) (s : Settings) (force : Bool) :
    (∀ made, write d path s force = .ok made → load made path = .ok (some s)) ∧
    (write d path s force = .error (.alreadyThere path) ↔
      d.exists? path = true ∧ force = false) ∧
    (write d path s force = .error .unwritable ↔
      ¬ (d.exists? path = true ∧ force = false) ∧ ∃ n, s.embedDim = some n ∧ 2 ^ 63 ≤ n) ∧
    (∀ why, write d path s force = .error why → why = .alreadyThere path ∨ why = .unwritable →
      (afterWriting d path s force).exists? path = d.exists? path ∧
        (afterWriting d path s force).readText path = d.readText path) := by
  refine ⟨fun made h => load_of_write_ok h, write_eq_alreadyThere_iff, write_eq_unwritable_iff,
    fun why h _ => ?_⟩
  rw [afterWriting_of_error h]
  exact ⟨rfl, rfl⟩

/-- Settings with quotes of both kinds, a backslash, line breaks and control characters. -/
def quoted : Settings where
  database := some "\n\"\"\"'''\\\r\n\x00"
  tableName := some "''\"\""

/-- A disk with a settings file that holds something else. -/
def outdated : Disk := ⟨[(["vectra.toml"], .text "old")]⟩

/-- Hard strings read back, and the two refusals keep an old file and a missing one. -/
theorem load_write_quoted :
    (∃ made, write outdated "vectra.toml" quoted true = .ok made ∧
      load made "vectra.toml" = .ok (some quoted)) ∧
    (write outdated "vectra.toml" quoted false = .error (.alreadyThere "vectra.toml") ∧
      (afterWriting outdated "vectra.toml" quoted false).readText "vectra.toml" = .ok "old") ∧
    (write .empty "vectra.toml" { quoted with embedDim := some (2 ^ 63) } false =
        .error .unwritable ∧
      (afterWriting .empty "vectra.toml" { quoted with embedDim := some (2 ^ 63) } false).exists?
        "vectra.toml" = false) := by
  have hthere : outdated.exists? "vectra.toml" = true := by decide
  have hold : outdated.readText "vectra.toml" = .ok "old" := by rfl
  have hempty : Disk.empty.exists? "vectra.toml" = false := by decide
  have hmade : write outdated "vectra.toml" quoted true =
      .ok (outdated.put ["vectra.toml"] (.text quoted.render)) := by rfl
  obtain ⟨-, hrefused, -, hkept⟩ := load_write outdated "vectra.toml" quoted false
  obtain ⟨-, -, hunwritable, hmissing⟩ :=
    load_write .empty "vectra.toml" { quoted with embedDim := some (2 ^ 63) } false
  have hclash := hrefused.mpr ⟨hthere, rfl⟩
  have hlarge := hunwritable.mpr ⟨fun h => absurd h.1 (by simp [hempty]), _, rfl, Nat.le_refl _⟩
  exact ⟨⟨_, hmade, (load_write outdated "vectra.toml" quoted true).1 _ hmade⟩,
    ⟨hclash, (hkept _ hclash (.inl rfl)).2.trans hold⟩,
    ⟨hlarge, (hmissing _ hlarge (.inr rfl)).1.trans hempty⟩⟩

end HybridRetrieval.Settings
