import Footfall.Toml.Document
import Footfall.Visit.Record

/-!
# Configuration

The settings of the service, out of a file and the environment.

## Main Definitions

* `Config` — the settings, with their defaults
* `Config.ofToml?` — the settings of a file
* `Config.withEnvironment` — settings after the variables of the environment
* `Config.load` — file first, environment on top of it

## Design Notes

A file counts as a whole. If it cannot be read, is no TOML, or holds a setting of the wrong type
or out of range, then every setting has its default. A variable whose text is no number of its
range is passed over, and the other variables still count.
-/

namespace Footfall

/-- Settings of the service. -/
structure Config where
  /-- Address to listen on. -/
  host : String := "0.0.0.0"
  /-- Number of the socket to listen on. -/
  port : Nat := 8000
  /-- Directory of the store. -/
  dataDir : String := "data"
  /-- Sites whose events are kept; without any, those of every site. -/
  siteIds : List String := []
  /-- File that tells places by address. -/
  geoDatabase : Option String := none
  /-- Whether an event with an unresolved dimension is dropped. -/
  rejectUnresolved : Bool := false
  /-- Seconds after midnight at which the day before is compacted. -/
  compactionDelay : Nat := 120
  /-- Number of days that the repair pass looks back. -/
  repairLookback : Nat := 7
  /-- Seconds that a shutdown may take. -/
  shutdownTimeout : Nat := 30
  deriving DecidableEq, Repr, Inhabited

/-- The variables of a process: the text of each that is set. -/
abbrev Environment := (name : String) → Option String

namespace Config

/-- Numbers of sockets have 16 bits. -/
def portBound : Nat := 65536

/-- Numbers of days have 32 bits. -/
def daysBound : Nat := 4294967296

/-- Numbers of seconds have 64 bits. -/
def secondsBound : Nat := 18446744073709551616

/-! ## The file -/

/-- What a member of a table holds, or `absent` without such a member. None if the member is of
another kind. -/
def memberOr (absent : α) (read : Toml.Node → Option α) (ms : Toml.Members) (name : String) :
    Option α :=
  match Toml.find? ms name with
  | none => some absent
  | some node => read node

/-- The settings in the members of a document. Other members are passed over. -/
def ofMembers? (ms : Toml.Members) : Option Config := do
  let unset : Config := {}
  let host ← memberOr unset.host Toml.Node.text? ms "host"
  let port ← memberOr unset.port (Toml.Node.below? portBound) ms "port"
  let dataDir ← memberOr unset.dataDir Toml.Node.text? ms "data_dir"
  let siteIds ← memberOr unset.siteIds Toml.Node.texts? ms "site_ids"
  let geoDatabase ← memberOr unset.geoDatabase (·.text?.map some) ms "geoip_db_path"
  let rejectUnresolved ← memberOr unset.rejectUnresolved Toml.Node.bool? ms "reject_unresolved"
  let compactionDelay ←
    memberOr unset.compactionDelay (Toml.Node.below? secondsBound) ms "compaction_delay_secs"
  let repairLookback ←
    memberOr unset.repairLookback (Toml.Node.below? daysBound) ms "repair_lookback_days"
  let shutdownTimeout ←
    memberOr unset.shutdownTimeout (Toml.Node.below? secondsBound) ms "shutdown_timeout_secs"
  some { host, port, dataDir, siteIds, geoDatabase, rejectUnresolved, compactionDelay,
         repairLookback, shutdownTimeout }

/-- The settings of a TOML document. -/
def ofToml? (text : String) : Option Config :=
  (Toml.parse? text).bind ofMembers?

/-- The settings of a file, which may be missing. -/
def ofFile (file : Option ByteArray) : Config :=
  ((file.bind String.fromUTF8?).bind ofToml?).getD {}

/-! ## The environment -/

/-- Whether the text of a variable says yes. -/
def saysYes (s : String) : Bool :=
  s == "1" || s.toLower == "true"

/-- The number in a variable, or `otherwise` if the variable holds no number below `bound`. -/
def numberOr (otherwise bound : Nat) (held : Option String) : Nat :=
  (held.bind (naturalBelow? bound)).getD otherwise

/-- Settings after the variables of the environment. -/
def withEnvironment (c : Config) (env : Environment) : Config :=
  { c with
    host := (env "TIDEMARK_HOST").getD c.host
    port := numberOr c.port portBound (env "TIDEMARK_PORT")
    dataDir := (env "TIDEMARK_DATA_DIR").getD c.dataDir
    geoDatabase := (env "TIDEMARK_GEOIP_DB").or c.geoDatabase
    rejectUnresolved :=
      ((env "TIDEMARK_REJECT_UNRESOLVED").map saysYes).getD c.rejectUnresolved
    compactionDelay := numberOr c.compactionDelay secondsBound (env "TIDEMARK_COMPACTION_DELAY")
    repairLookback := numberOr c.repairLookback daysBound (env "TIDEMARK_REPAIR_LOOKBACK")
    shutdownTimeout :=
      numberOr c.shutdownTimeout secondsBound (env "TIDEMARK_SHUTDOWN_TIMEOUT") }

/-- The settings of a file with those of the environment over them. -/
def load (file : Option ByteArray) (env : Environment) : Config :=
  (ofFile file).withEnvironment env

/-! ## What follows from the settings -/

/-- The path of a file in a directory. -/
def pathIn (directory name : String) : String :=
  if directory.isEmpty || directory.endsWith "/" then directory ++ name
  else directory ++ "/" ++ name

/-- The path of the store. -/
def databasePath (c : Config) : String :=
  pathIn c.dataDir "stats.duckdb"

/-- What happens to an event with an unresolved dimension. -/
def policy (c : Config) : Policy :=
  if c.rejectUnresolved then .reject else .record

end Config

end Footfall
