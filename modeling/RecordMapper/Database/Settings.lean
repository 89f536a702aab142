import RecordMapper.Json.Decode
import RecordMapper.System

/-!
# Settings of a database

* `Database.Settings`: the file of a database and how it is used.
* `Database.Settings.toJson`, `Database.Settings.ofJson?`: the JSON form of settings. All but the
  path may be left out of it.
* `Database.Settings.validate`: whether the path can be that of a database.
* `Database.Settings.setup`: the statements by which a connection is set up.
-/

namespace RecordMapper.Database

/-- How changes are kept from being lost halfway. -/
inductive JournalMode where
  | wal
  | delete
deriving DecidableEq, Repr

namespace JournalMode

instance : Inhabited JournalMode := ⟨.wal⟩

/-- The name of a mode. -/
def name : JournalMode → String
  | .wal => "wal"
  | .delete => "delete"

/-- The mode of a name. -/
def ofName? : String → Option JournalMode
  | "wal" => some .wal
  | "delete" => some .delete
  | _ => none

end JournalMode

/-- How often changes are waited for until they are on the disk. -/
inductive SyncMode where
  | full
  | normal
deriving DecidableEq, Repr

namespace SyncMode

instance : Inhabited SyncMode := ⟨.full⟩

/-- The name of a mode. -/
def name : SyncMode → String
  | .full => "full"
  | .normal => "normal"

/-- The mode of a name. -/
def ofName? : String → Option SyncMode
  | "full" => some .full
  | "normal" => some .normal
  | _ => none

/-- The number by which the database knows a mode. -/
def code : SyncMode → Nat
  | .full => 2
  | .normal => 1

end SyncMode

/-- The limits on the path of a database. -/
def pathLimits : Path.Limits := { length := 4096, componentLength := 255 }

/-- How long a database waits for others by default, in milliseconds. -/
def defaultBusyTimeout : UInt64 := 5000

/-- The file of a database and how it is used. -/
structure Settings where
  path : Path
  /-- How long the database waits for others, in milliseconds. -/
  busyTimeout : UInt64 := defaultBusyTimeout
  journal : JournalMode := default
  sync : SyncMode := default
deriving DecidableEq, Repr

/-- Why a path cannot be that of a database. -/
inductive PathFault where
  | empty
  | tooLong
  | longComponent
  | directory
deriving DecidableEq, Repr

/-- Why a path cannot be that of a database, in words. -/
def PathFault.detail : PathFault → String
  | .empty => "store path must not be empty"
  | .tooLong => "store path exceeds length limit"
  | .longComponent => "store path contains an overlong component"
  | .directory => "store path must be a file, not a directory"

namespace Settings

/-- The JSON form of settings. -/
def toJson (settings : Settings) : Json :=
  .record [("path", .str settings.path.text), ("busy_timeout_ms", .nat settings.busyTimeout.toNat),
    ("journal_mode", .str settings.journal.name), ("sync_mode", .str settings.sync.name)]

/-- The settings of a JSON form. -/
def ofJson? (value : Json) : Option Settings := do
  match ← value.looseFields? ["path", "busy_timeout_ms", "journal_mode", "sync_mode"] with
  | [some path, busyTimeout, journal, sync] =>
    return {
      path := ⟨← path.string?⟩
      busyTimeout := ← busyTimeout.elim (some defaultBusyTimeout) Json.word?
      journal := ← journal.elim (some default) (·.plainVariant?.bind JournalMode.ofName?)
      sync := ← sync.elim (some default) (·.plainVariant?.bind SyncMode.ofName?) }
  | _ => none

/-- Whether the path can be that of a database in a system, and if not, the first reason. -/
def validate {σ : Type} (settings : Settings) (system : System σ) (state : σ) :
    Except PathFault Unit :=
  if settings.path.text = "" then .error .empty
  else if settings.path.isTooLong pathLimits then .error .tooLong
  else if settings.path.hasLongComponent pathLimits then .error .longComponent
  else if system.isDirectory settings.path state then .error .directory
  else .ok ()

/-- The statement by which references between tables are kept. -/
def keepReferences : String := "PRAGMA foreign_keys = ON;"

/-- The statements by which a connection is set up. -/
def setup (settings : Settings) : List String :=
  [keepReferences, s!"PRAGMA journal_mode = {settings.journal.name};",
    s!"PRAGMA synchronous = {settings.sync.name};"]

end Settings

end RecordMapper.Database
