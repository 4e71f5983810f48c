import HybridRetrieval.Store.Params
/-!
# Settings

Settings are five entries, each of which may be left unset.  Overrides come before settings and
defaults after them when the parameters of a store are resolved.
-/

namespace HybridRetrieval

open Json

/-- The entries of a settings file. -/
structure Settings where
  database : Option String := none
  tableName : Option String := none
  embedDim : Option Nat := none
  hybridSearch : Option Bool := none
  analyzer : Option Analyzer := none
deriving DecidableEq, Repr

/-- What takes precedence over the settings. -/
structure Overrides where
  database : Option String := none
  tableName : Option String := none
  embedDim : Option Nat := none
  hybridSearch : Bool := false
  analyzer : Option Analyzer := none
deriving DecidableEq, Repr

/-- The database if none is given. -/
def defaultDatabase : String := ".vectra/vectra.db"

/-- The logical table name if none is given. -/
def defaultTableName : String := "embeddings"

/-- The settings file if none is given. -/
def defaultSettingsPath : String := "vectra.toml"

namespace Settings

def decoder : Decoder Settings :=
  (Record.pure Settings.mk
    |>.optional "database" Decoder.string
    |>.optional "table_name" Decoder.string
    |>.optional "embed_dim" Decoder.nat
    |>.optional "hybrid_search" Decoder.bool
    |>.optional "text_search_config" (Decoder.variant Analyzer.variants)).decoder

/-- The parameters that overrides, settings and defaults give. -/
def storeParams (s : Settings) (o : Overrides) : StoreParams where
  database := (o.database <|> s.database).getD defaultDatabase
  tableName := (o.tableName <|> s.tableName).getD defaultTableName
  embedDim := (o.embedDim <|> s.embedDim).getD defaultEmbedDim
  hybridSearch := o.hybridSearch || s.hybridSearch.getD false
  analyzer := (o.analyzer <|> s.analyzer).getD .english

/-- Settings that give the same parameters without overrides. -/
def ofStoreParams (p : StoreParams) : Settings where
  database := some p.database
  tableName := some p.tableName
  embedDim := some p.embedDim
  hybridSearch := some p.hybridSearch
  analyzer := some p.analyzer

end Settings

end HybridRetrieval
