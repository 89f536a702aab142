import RecordMapper.Config
import RecordMapper.Text.Blank

/-!
# Valid configurations

* `Config.Cause`: what is wrong with a configuration.
* `Config.checkLimits`, `Config.checkField`: whether a path can be used.
* `Config.validate`: whether the parts of a configuration fit together, and if not, the first
  reason.
-/

namespace RecordMapper.Config

/-! ## Causes -/

/-- Which path is meant. -/
inductive PathRole where
  /-- That of the configuration itself. -/
  | config
  | store
  | log
deriving DecidableEq, Repr

namespace PathRole

/-- What a path is called. -/
def label : PathRole → String
  | .config => "config path"
  | .store => "store.path"
  | .log => "logging.path"

/-- What a component of a path is said to belong to. -/
def owner : PathRole → String
  | .config => "config"
  | role => role.label

end PathRole

/-- What is wrong with a path. -/
inductive PathCause where
  | blank
  | tooLong
  | longComponent
deriving DecidableEq, Repr

/-- What is wrong with a path, in words. -/
def PathCause.detail (role : PathRole) : PathCause → String
  | .blank => role.label ++ " must be non-empty"
  | .tooLong => role.label ++ " exceeds max length"
  | .longComponent => role.owner ++ " path component too long"

/-- What is wrong with a configuration. -/
inductive Cause where
  | path (role : PathRole) (cause : PathCause)
  | fileTooLarge
  | fileNotText
  | storeWithPath (kind : StoreKind)
  | storeWithoutPath
  | busyTimeout
  | logWithPath
  | logWithoutPath
  | dialect (kind : StoreKind)
  | externalStore
deriving DecidableEq, Repr

/-- The longest time that a store may be told to wait, in milliseconds. -/
def maxBusyTimeout : Nat := 600000

/-- What is wrong with a configuration, in words. -/
def Cause.detail : Cause → String
  | .path role cause => cause.detail role
  | .fileTooLarge => "config file exceeds size limit"
  | .fileNotText => "config file must be utf-8"
  | .storeWithPath kind => s!"{kind.name} store must not set path"
  | .storeWithoutPath => "sqlite store requires path"
  | .busyTimeout => s!"store.busy_timeout_ms exceeds {Decimal.ofNat maxBusyTimeout}"
  | .logWithPath => "logging.path only allowed when sink = \"file\""
  | .logWithoutPath => "file log sink requires logging.path"
  | .dialect kind => s!"{kind.name} store requires sql.dialect = \"sqlite\""
  | .externalStore => "external store has no built-in executor"

/-! ## Checks -/

/-- The limits on paths that are configured. -/
def pathLimits : Path.Limits := { length := 4096, componentLength := 255 }

/-- A path has to keep to the limits. -/
def checkLimits (role : PathRole) (path : Path) : Except Cause Unit :=
  if path.isTooLong pathLimits then .error (.path role .tooLong)
  else if path.hasLongComponent pathLimits then .error (.path role .longComponent)
  else .ok ()

/-- A path that is configured must not be blank, too. -/
def checkField (role : PathRole) (path : Path) : Except Cause Unit :=
  if Text.isBlank path.text then .error (.path role .blank) else checkLimits role path

/-- A store has a path exactly if it is in a file of its own. -/
def StoreSection.checkPath (store : StoreSection) : Except Cause Unit :=
  match store.kind, store.path with
  | .sqlite, some path => checkField .store path
  | .sqlite, none => .error .storeWithoutPath
  | kind, some _ => .error (.storeWithPath kind)
  | _, none => .ok ()

/-- The part about the store: first its path, then the time that it waits. -/
def StoreSection.validate (store : StoreSection) : Except Cause Unit := do
  store.checkPath
  if maxBusyTimeout < store.busyTimeout.toNat then throw .busyTimeout

/-- The part about the log, which has a path exactly if it is a file. -/
def LogSection.validate (log : LogSection) : Except Cause Unit :=
  match log.sink, log.path with
  | .file, some path => checkField .log path
  | .file, none => .error .logWithoutPath
  | _, some _ => .error .logWithPath
  | _, none => .ok ()

/-- Whether the parts fit together: first the store, then the log, then the dialect, which has to be
that of the store. -/
def validate (config : Config) : Except Cause Unit := do
  config.store.validate
  config.log.validate
  if config.store.kind ≠ .external ∧ config.dialect ≠ .sqlite then
    throw (.dialect config.store.kind)

end RecordMapper.Config
