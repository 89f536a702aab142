import RecordMapper.Config
import RecordMapper.Schema.Json
import RecordMapper.Toml.Decode

/-!
# Configuration in TOML

* `Config.ofToml?`: the configuration of a document. What is left out has its default; what has an
  unknown name is passed over.
-/

namespace RecordMapper.Config

/-- What a field holds, or its default if it is left out. -/
def fieldOr {α : Type} (fallback : α) (read : Toml → Option α) (field : Option Toml) : Option α :=
  field.elim (some fallback) read

/-- One of several alternatives, by its name. -/
def choice {α : Type} (ofName? : String → Option α) (value : Toml) : Option α :=
  value.variant?.bind ofName?

/-- A path. -/
def pathOfToml? (value : Toml) : Option (Option Path) :=
  value.string?.map fun text => some ⟨text⟩

/-- The dialect of a section. -/
def dialectOfToml? (value : Toml) : Option Dialect := do
  match ← value.fields? ["dialect"] with
  | [dialect] => fieldOr default (choice Dialect.ofName?) dialect
  | _ => none

/-- The store of a section. -/
def StoreSection.ofToml? (value : Toml) : Option StoreSection := do
  match ← value.fields? ["type", "path", "busy_timeout_ms", "journal_mode", "sync_mode"] with
  | [kind, path, busyTimeout, journal, sync] =>
    return {
      kind := ← fieldOr default (choice StoreKind.ofName?) kind
      path := ← fieldOr none pathOfToml? path
      busyTimeout := ← fieldOr Database.defaultBusyTimeout Toml.word? busyTimeout
      journal := ← fieldOr default (choice Database.JournalMode.ofName?) journal
      sync := ← fieldOr default (choice Database.SyncMode.ofName?) sync }
  | _ => none

/-- The log of a section. -/
def LogSection.ofToml? (value : Toml) : Option LogSection := do
  match ← value.fields? ["sink", "level", "path"] with
  | [sink, level, path] =>
    return {
      sink := ← fieldOr default (choice SinkKind.ofName?) sink
      level := ← fieldOr default (choice Level.ofName?) level
      path := ← fieldOr none pathOfToml? path }
  | _ => none

/-- The configuration of a document. -/
def ofToml? (value : Toml) : Option Config := do
  match ← value.fields? ["sql", "store", "logging"] with
  | [sql, store, log] =>
    return {
      dialect := ← fieldOr default dialectOfToml? sql
      store := ← fieldOr {} StoreSection.ofToml? store
      log := ← fieldOr {} LogSection.ofToml? log }
  | _ => none

end RecordMapper.Config
