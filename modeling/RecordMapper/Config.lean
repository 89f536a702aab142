import RecordMapper.Database.Settings
import RecordMapper.Dialect
import RecordMapper.Log.Event

/-!
# Configuration

* `Config`: the dialect, the store and the log that are configured.
* `Config.toJson`: a configuration with all its parts, in JSON.
-/

namespace RecordMapper

namespace Config

/-! ## Parts -/

/-- Where the store is. -/
inductive StoreKind where
  | memory
  | sqlite
  /-- The program that uses the library has a store of its own. -/
  | external
deriving DecidableEq, Repr

instance : Inhabited StoreKind := ⟨.memory⟩

namespace StoreKind

/-- The name of a kind. -/
def name : StoreKind → String
  | .memory => "memory"
  | .sqlite => "sqlite"
  | .external => "external"

/-- The kind of a name. -/
def ofName? : String → Option StoreKind
  | "memory" => some .memory
  | "sqlite" => some .sqlite
  | "external" => some .external
  | _ => none

end StoreKind

/-- The store that is configured. -/
structure StoreSection where
  kind : StoreKind := default
  path : Option Path := none
  /-- How long the store waits for others, in milliseconds. -/
  busyTimeout : UInt64 := Database.defaultBusyTimeout
  journal : Database.JournalMode := default
  sync : Database.SyncMode := default
deriving DecidableEq, Repr

/-- Where events go. -/
inductive SinkKind where
  | stderr
  | file
  | none
deriving DecidableEq, Repr

instance : Inhabited SinkKind := ⟨.stderr⟩

namespace SinkKind

/-- The name of a kind. -/
def name : SinkKind → String
  | .stderr => "stderr"
  | .file => "file"
  | .none => "none"

/-- The kind of a name. -/
def ofName? : String → Option SinkKind
  | "stderr" => some .stderr
  | "file" => some .file
  | "none" => some .none
  | _ => Option.none

end SinkKind

/-- The log that is configured. -/
structure LogSection where
  sink : SinkKind := default
  level : Level := default
  path : Option Path := none
deriving DecidableEq, Repr

end Config

/-- What is configured. Each part has a default. -/
structure Config where
  dialect : Dialect := default
  store : Config.StoreSection := {}
  log : Config.LogSection := {}
deriving DecidableEq, Repr

namespace Config

/-! ## JSON -/

/-- A path that may be missing. -/
def pathToJson (path : Option Path) : Json :=
  path.elim .null (.str ·.text)

/-- The JSON form of the part about the store. -/
def StoreSection.toJson (store : StoreSection) : Json :=
  .record [("type", .str store.kind.name), ("path", pathToJson store.path),
    ("busy_timeout_ms", .nat store.busyTimeout.toNat), ("journal_mode", .str store.journal.name),
    ("sync_mode", .str store.sync.name)]

/-- The JSON form of the part about the log. -/
def LogSection.toJson (log : LogSection) : Json :=
  .record [("sink", .str log.sink.name), ("level", .str log.level.name),
    ("path", pathToJson log.path)]

/-- The JSON form of a configuration. -/
def toJson (config : Config) : Json :=
  .record [("dialect", .str config.dialect.name), ("store", config.store.toJson),
    ("logging", config.log.toJson)]

end Config

end RecordMapper
