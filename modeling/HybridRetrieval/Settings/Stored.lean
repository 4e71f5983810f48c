import HybridRetrieval.Disk.Basic
import HybridRetrieval.Settings.File
/-!
# Settings on a disk

Loading gives no settings if there is no file.  Writing does not replace a file unless it is forced
to.
-/

namespace HybridRetrieval

/-- Why settings cannot be loaded or written. -/
inductive SettingsError where
  | disk (why : DiskError)
  | unreadable
  | unwritable
  | alreadyThere (path : String)
deriving DecidableEq, Repr

/-- The message for an error. -/
def SettingsError.message : SettingsError → String
  | disk why => why.message
  | unreadable => "TOML parse error"
  | unwritable => "out-of-range value for u64 type"
  | alreadyThere path => "config already exists at " ++ path ++ " (use --force to overwrite)"

namespace Settings

/-- The settings in a file, if it is there. -/
def load (d : Disk) (path : String) : Except SettingsError (Option Settings) :=
  if d.exists? path then
    match d.readText path with
    | .error why => .error (.disk why)
    | .ok text =>
      match parse? text with
      | some s => .ok (some s)
      | none => .error .unreadable
  else .ok none

/-- Writes a file with the settings. -/
def write (d : Disk) (path : String) (s : Settings) (force : Bool) : Except SettingsError Disk :=
  if d.exists? path && !force then .error (.alreadyThere path)
  else if !s.isWritable then .error .unwritable
  else (d.writeText path s.render).mapError .disk

end Settings

end HybridRetrieval
