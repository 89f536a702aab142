import RecordMapper.Fault
import RecordMapper.Json.Basic

/-!
# Log events

* `Level`: how grave an event is.
* `Event`: something that happened, with the table, the statement and the words that belong to it.
* `Event.line`: an event as a line of a log.
-/

namespace RecordMapper

/-- How grave an event is. -/
inductive Level where
  | debug
  | info
  | warn
  | error
deriving DecidableEq, Repr

namespace Level

instance : Inhabited Level := ⟨.info⟩

/-- The name of a level. -/
def name : Level → String
  | .debug => "debug"
  | .info => "info"
  | .warn => "warn"
  | .error => "error"

/-- The place of a level among all levels. -/
def rank : Level → Nat
  | .debug => 0
  | .info => 1
  | .warn => 2
  | .error => 3

/-- Whether a level is at or above another one. -/
def reaches (level least : Level) : Bool :=
  least.rank ≤ level.rank

end Level

/-- Something that happened. -/
structure Event where
  name : String
  level : Level
  table : Option String := none
  sql : Option String := none
  message : Option String := none
deriving DecidableEq, Repr

namespace Event

/-! ## The events of this library -/

/-- A schema was registered. -/
def schemaRegistered (table : String) : Event :=
  { name := "schema_registered", level := .debug, table }

/-- The registered schemas belong together. -/
def registryValidated (count : Nat) : Event :=
  { name := "registry_validated", level := .info,
    message := some (Decimal.ofNat count ++ " schemas") }

/-- The registered schemas do not belong together. -/
def registryRefused (fault : Fault) : Event :=
  { name := "operation_failed", level := .error,
    message := some ("registry validation: " ++ fault.message) }

/-- A table was created. -/
def tableCreated (table sql : String) : Event :=
  { name := "table_created", level := .info, table, sql }

/-- A table could not be created. -/
def tableRefused (table sql : String) (fault : Fault) : Event :=
  { name := "operation_failed", level := .error, table, sql, message := fault.message }

/-- A statement without rows is about to be sent. -/
def statementExecuted (table : Option String) (sql : String) : Event :=
  { name := "statement_executed", level := .debug, table, sql }

/-- A statement with rows is about to be sent. -/
def queryExecuted (table : Option String) (sql : String) : Event :=
  { name := "query_executed", level := .debug, table, sql }

/-- An operation failed. -/
def operationFailed (operation : String) (table : Option String) (fault : Fault) : Event :=
  { name := "operation_failed", level := .error, table,
    message := some (operation ++ " (" ++ fault.kind.label ++ "): " ++ fault.message) }

/-- A connection was closed. -/
def connectionClosed : Event :=
  { name := "connection_closed", level := .info }

/-! ## Lines -/

/-- A member of a line, if there is something to put there. -/
def member? (name : String) (content : Option String) : List (String × Json) :=
  match content with
  | some content => [(name, .str content)]
  | none => []

/-- An event that happened at a time, counted in milliseconds. -/
def toJson (time : Nat) (event : Event) : Json :=
  .record <|
    [("event", .str event.name), ("timestamp_ms", .nat time), ("level", .str event.level.name)] ++
      member? "table" event.table ++ member? "sql" event.sql ++ member? "message" event.message

/-- The line of an event, with its line end. -/
def line (time : Nat) (event : Event) : String :=
  (event.toJson time).render ++ "\n"

/-- The lines of those events that reach a level. Each event comes with its time. -/
def lines (least : Level) (events : List (Nat × Event)) : String :=
  String.join ((events.filter (·.2.level.reaches least)).map fun e => e.2.line e.1)

end Event

end RecordMapper
