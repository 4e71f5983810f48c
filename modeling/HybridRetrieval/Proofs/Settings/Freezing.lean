import HybridRetrieval.CommandLine.Outcome
import HybridRetrieval.Proofs.Settings.ReadBack
/-!
# Settings that are frozen

The parameters of a store come from three layers: overrides, the settings file, defaults.  The
command that writes a settings file resolves them and writes the result down, with nothing left
unset.  From then on the file decides alone: overrides change something only if they ask for
something else than it says (`storeParams_ofStoreParams_iff`).  Neither the overrides of the command
itself nor missing ones do, so both resolve to the parameters again (`init_freezes`).
-/

namespace HybridRetrieval

/-- The overrides ask for nothing but what the parameters say.  Hybrid search can only be asked for,
not be declined. -/
structure Overrides.Agree (o : Overrides) (p : StoreParams) : Prop where
  database : ∀ x ∈ o.database, x = p.database
  tableName : ∀ x ∈ o.tableName, x = p.tableName
  embedDim : ∀ x ∈ o.embedDim, x = p.embedDim
  hybridSearch : o.hybridSearch = true → p.hybridSearch = true
  analyzer : ∀ x ∈ o.analyzer, x = p.analyzer

/-- Missing overrides ask for nothing. -/
theorem Overrides.agree_none (p : StoreParams) : ({} : Overrides).Agree p := by
  constructor <;> simp

namespace Settings

/-- A value that takes precedence is the one below it, or there is none. -/
theorem getD_orElse_some_eq_iff {α : Type} {x : Option α} {y d : α} :
    (x <|> some y).getD d = y ↔ ∀ z ∈ x, z = y := by
  cases x <;> simp

/-- A value that takes precedence is what comes out. -/
theorem eq_getD_orElse {α : Type} {x y : Option α} {d : α} : ∀ z ∈ x, z = (x <|> y).getD d := by
  cases x <;> simp

/-- Parameters agree with the overrides that they were resolved with. -/
theorem agree_storeParams (s : Settings) (o : Overrides) : o.Agree (s.storeParams o) where
  database := eq_getD_orElse
  tableName := eq_getD_orElse
  embedDim := eq_getD_orElse
  hybridSearch h := by simp [storeParams, h]
  analyzer := eq_getD_orElse

/-- **Settings made of parameters give these again**, with all overrides that agree with them and
with no others. -/
theorem storeParams_ofStoreParams_iff {p : StoreParams} {o : Overrides} :
    (ofStoreParams p).storeParams o = p ↔ o.Agree p := by
  have hhybrid : (o.hybridSearch || p.hybridSearch) = p.hybridSearch ↔
      (o.hybridSearch = true → p.hybridSearch = true) := by
    cases o.hybridSearch <;> cases p.hybridSearch <;> simp
  constructor
  · intro heq
    obtain ⟨hdatabase, htable, hdim, hor, hanalyzer⟩ := StoreParams.mk.inj heq
    exact ⟨getD_orElse_some_eq_iff.mp hdatabase, getD_orElse_some_eq_iff.mp htable,
      getD_orElse_some_eq_iff.mp hdim, hhybrid.mp hor, getD_orElse_some_eq_iff.mp hanalyzer⟩
  · intro h
    exact StoreParams.mk.injEq .. ▸ ⟨getD_orElse_some_eq_iff.mpr h.database,
      getD_orElse_some_eq_iff.mpr h.tableName, getD_orElse_some_eq_iff.mpr h.embedDim,
      hhybrid.mpr h.hybridSearch, getD_orElse_some_eq_iff.mpr h.analyzer⟩

end Settings

namespace CommandLine

/-- Settings are written, or the command fails. -/
theorem writeSettings_ok {d : Disk} {path : String} {p : StoreParams} {force : Bool}
    (h : (writeSettings d path p force).1.exitCode = 0) :
    Settings.write d path (.ofStoreParams p) force = .ok (writeSettings d path p force).2 := by
  unfold writeSettings at h ⊢
  split at h
  · rename_i made hwrite
    rw [hwrite]
  · cases h

/-- Parameters come from what is loaded, be it settings or none. -/
theorem General.storeParams_eq_ok_iff {g : General} {d : Disk} {p : StoreParams} :
    g.storeParams d = .ok p ↔ ∃ found, Settings.load d g.path = .ok found ∧
      (found.getD {}).storeParams g.overrides = p := by
  unfold General.storeParams
  cases Settings.load d g.path with
  | error why => simp [Except.map]
  | ok found => simp [Except.map]

/-- The command that writes settings has resolved the parameters first. -/
theorem init_ok {d : Disk} {i : Invocation} {force : Bool} (hcommand : i.command = .init force)
    (h : (i.run d).1.exitCode = 0) :
    ∃ p, i.general.storeParams d = .ok p ∧
      Settings.write d i.general.path (.ofStoreParams p) force = .ok (i.run d).2 := by
  cases hparams : i.general.storeParams d with
  | error why =>
      rw [Invocation.run, hparams] at h
      cases h
  | ok p =>
      have hrun : i.run d = writeSettings d i.general.path p force := by
        simp only [Invocation.run, hparams, Invocation.runWith, hcommand]
      rw [hrun] at h ⊢
      exact ⟨p, rfl, writeSettings_ok h⟩

/-- **Settings are frozen.**  If the command that writes them succeeds, the file that it wrote is
loaded, whatever was there before and whatever was unset; and the parameters that the command itself
resolved come out of it again, without overrides, with the same overrides once more, and with
exactly those overrides that agree with the parameters. -/
theorem init_freezes {d : Disk} {i : Invocation} {force : Bool}
    (hcommand : i.command = .init force) (hsuccess : (i.run d).1.exitCode = 0) :
    ∃ p s, i.general.storeParams d = .ok p ∧
      Settings.load (i.run d).2 i.general.path = .ok (some s) ∧
      s.storeParams {} = p ∧
      s.storeParams i.general.overrides = p ∧
      ∀ o, ({ i.general with overrides := o } : General).storeParams (i.run d).2 = .ok p ↔
        o.Agree p := by
  obtain ⟨p, hparams, hwrite⟩ := init_ok hcommand hsuccess
  have hload := Settings.load_of_write_ok hwrite
  -- the parameters were resolved with the overrides of the command, so these agree
  have hagree : i.general.overrides.Agree p := by
    obtain ⟨found, -, rfl⟩ := General.storeParams_eq_ok_iff.mp hparams
    exact Settings.agree_storeParams _ _
  refine ⟨p, .ofStoreParams p, hparams, hload, ?_, ?_, ?_⟩
  · exact Settings.storeParams_ofStoreParams_iff.mpr (Overrides.agree_none p)
  · exact Settings.storeParams_ofStoreParams_iff.mpr hagree
  · intro o
    rw [General.storeParams_eq_ok_iff, ← Settings.storeParams_ofStoreParams_iff]
    constructor
    · intro h
      obtain ⟨found, hfound, heq⟩ := h
      obtain rfl := Except.ok.inj (hload.symm.trans hfound)
      exact heq
    · intro heq
      exact ⟨_, hload, heq⟩

/-- Settings that leave the database and the analyzer open. -/
def openSettings : Settings :=
  { tableName := some "notes", embedDim := some 3, hybridSearch := some true }

/-- A disk with a file that holds them. -/
def withOpenSettings : Disk :=
  ⟨[(["vectra.toml"], .text "table_name = 'notes'\nembed_dim = 3\nhybrid_search = true\n")]⟩

/-- Writes settings with another table and another length of embeddings in force. -/
def settling : Invocation :=
  ⟨{ overrides := { tableName := some "docs", embedDim := some 2 } }, .init true⟩

/-- What comes out: the overrides, what the file sets besides, and two defaults. -/
def settled : StoreParams := ⟨".vectra/vectra.db", "docs", 2, true, .english⟩

/-- Both layers and the defaults are frozen, and the table of the old file is asked for in vain. -/
theorem init_freezes_withOpenSettings :
    Settings.load withOpenSettings "vectra.toml" = .ok (some openSettings) ∧
    settling.general.storeParams withOpenSettings = .ok settled ∧
    settling.command = .init true ∧ (settling.run withOpenSettings).1.exitCode = 0 ∧
    (∃ s, Settings.load (settling.run withOpenSettings).2 "vectra.toml" = .ok (some s) ∧
      s.storeParams {} = settled ∧ s.storeParams settling.general.overrides = settled) ∧
    ({ overrides := { tableName := some "notes" } } : General).storeParams
      (settling.run withOpenSettings).2 ≠ .ok settled := by
  have hread : withOpenSettings.readText "vectra.toml" =
      .ok "table_name = 'notes'\nembed_dim = 3\nhybrid_search = true\n" := by rfl
  have hparse : Settings.parse? "table_name = 'notes'\nembed_dim = 3\nhybrid_search = true\n" =
      some openSettings := by decide +kernel
  have hload : Settings.load withOpenSettings "vectra.toml" = .ok (some openSettings) := by
    rw [Settings.load, if_pos (by decide), hread]
    simp only [hparse]
  have hparams : settling.general.storeParams withOpenSettings = .ok settled :=
    General.storeParams_eq_ok_iff.mpr ⟨_, hload, by decide⟩
  have hsuccess : (settling.run withOpenSettings).1.exitCode = 0 := by
    simp only [Invocation.run, hparams]
    decide +kernel
  obtain ⟨p, s, hp, hs, hnone, hsame, hagree⟩ := init_freezes rfl hsuccess
  obtain rfl := Except.ok.inj (hp.symm.trans hparams)
  refine ⟨hload, hparams, rfl, hsuccess, ⟨s, hs, hnone, hsame⟩, ?_⟩
  intro hnotes
  exact absurd (((hagree _).mp hnotes).tableName "notes" rfl) (by decide)

end CommandLine

end HybridRetrieval
