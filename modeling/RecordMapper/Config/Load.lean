import RecordMapper.Config.Toml
import RecordMapper.Config.Validate
import RecordMapper.Database
import RecordMapper.Log.Sink
import RecordMapper.Registry
import RecordMapper.Toml.Reader

/-!
# Loading and using a configuration

* `ConfigFault`: why a configuration cannot be loaded or used.
* `Config.parse`, `Config.load`: the configuration of a text, and of the file that is meant.
* `Config.openStore`, `Config.openSink`, `Config.openRegistry`: what a configuration stands for.
-/

namespace RecordMapper

/-- Why a configuration cannot be loaded or used. -/
inductive ConfigFault where
  /-- The system refused, in words of its own. -/
  | io (words : String)
  /-- The text is no configuration. -/
  | parse
  | invalid (cause : Config.Cause)
  | store (cause : Database.Fault)
deriving DecidableEq, Repr

/-- The words of a fault. Those of the reader of a text are not known. -/
def ConfigFault.message? : ConfigFault → Option String
  | .io words => some ("config io error: " ++ words)
  | .parse => none
  | .invalid cause => some ("invalid config: " ++ cause.detail)
  | .store cause => some ("config store error: " ++ cause.message)

namespace Config

/-! ## Loading -/

/-- The greatest number of bytes of the file of a configuration. -/
def maxFileSize : Nat := 64 * 1024

/-- The path where a configuration is if none is named. -/
def defaultPath : Path := ⟨"neptune.toml"⟩

/-- The configuration of a text. Its parts need not fit together. -/
def parse (text : String) : Except ConfigFault Config :=
  match (Toml.read? text).bind ofToml? with
  | some config => .ok config
  | none => .error .parse

/-- The text of the file of a configuration. -/
def textOf (data : ByteArray) : Except Cause String :=
  if maxFileSize < data.size then .error .fileTooLarge
  else
    match String.fromUTF8? data with
    | some text => .ok text
    | none => .error .fileNotText

variable {σ κ : Type} (system : System σ) (engine : Database.Engine σ κ)

/-- The configuration of the file that is meant: that of the argument, else that of the environment,
else that of the usual name. -/
def load (argument environment : Option Path) (state : σ) : Except ConfigFault Config := do
  let path := (argument <|> environment).getD defaultPath
  (checkLimits .config path).mapError .invalid
  let data ← (system.read path state).mapError .io
  let config ← parse (← (textOf data).mapError .invalid)
  config.validate.mapError .invalid
  return config

/-! ## Use -/

/-- Opens the store. -/
def openStore (config : Config) (state : σ) : Outcome ConfigFault (Database κ) × σ :=
  match config.store.kind, config.store.path with
  | .memory, _ =>
    let (result, state) := Database.openInMemory engine state
    ((Outcome.ofExcept result).mapFault .store, state)
  | .sqlite, some path =>
    let (outcome, state) := Database.openFile system engine {
      path
      busyTimeout := config.store.busyTimeout
      journal := config.store.journal
      sync := config.store.sync } state
    (outcome.mapFault .store, state)
  | .sqlite, none => (.failed (.invalid .storeWithoutPath), state)
  | .external, _ => (.failed (.invalid .externalStore), state)

/-- Makes the directories above a path that are missing, if it names any. -/
def ensureParent (path : Path) (state : σ) : Except String Unit × σ :=
  path.parent?.elim (.ok (), state) fun parent => system.ensureDirectories parent state

/-- Opens the sink of the log. The directories of its file are made if they are missing. -/
def openSink (config : Config) (state : σ) : Except ConfigFault Sink × σ :=
  match config.log.sink, config.log.path with
  | .stderr, _ => (.ok (.stderr config.log.level), state)
  | .none, _ => (.ok .none, state)
  | .file, none => (.error (.invalid .logWithoutPath), state)
  | .file, some path =>
    match ensureParent system path state with
    | (.error words, state) => (.error (.io words), state)
    | (.ok (), state) =>
      match Sink.openFile system path config.log.level state with
      | .error words => (.error (.io words), state)
      | .ok (sink, state) => (.ok sink, state)

/-- A registry without schemas, for the dialect that is configured. -/
def registry (config : Config) : Registry :=
  { dialect := config.dialect }

/-- The registry, with the sink for its events. -/
def openRegistry (config : Config) (state : σ) : Except ConfigFault (Registry × Sink) × σ :=
  match config.openSink system state with
  | (.error fault, state) => (.error fault, state)
  | (.ok sink, state) => (.ok (config.registry, sink), state)

end Config

end RecordMapper
