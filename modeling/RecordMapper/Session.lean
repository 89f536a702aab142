import RecordMapper.InstanceKey
import RecordMapper.Registry
import RecordMapper.Row

/-!
# Sessions with a store

* `Store`: what answers the calls of a session. An answer may depend on all calls before.
* `World`: what a session leaves behind: its exchanges with the store and its events.
* `Session`: a computation that sends calls and records events. It ends with a result, with a fault,
  or by a crash of the store.
* `Session.execute`, `Session.query`: a call of the store, after the event that announces it.
-/

namespace RecordMapper

/-! ## Stores -/

inductive Call where
  /-- A statement without rows. -/
  | execute (sql : String)
  /-- A statement with rows. -/
  | query (sql : String)
  | close
deriving DecidableEq, Repr

/-- What the store does with a call. -/
inductive Reply where
  /-- It is done. Only rows that were asked for are of use. -/
  | done (rows : List Row)
  | refused (text : String)
  | crashed
deriving DecidableEq, Repr

structure Exchange where
  call : Call
  reply : Reply
deriving DecidableEq, Repr

/-- What answers a call, after the exchanges before it. -/
abbrev Store := List Exchange → Call → Reply

/-! ## Sessions -/

structure World where
  /-- The exchanges with the store, the first one first. -/
  exchanges : List Exchange := []
  /-- The recorded events, the first one first. -/
  events : List Event := []
  /-- How many numbers were drawn for instance keys. -/
  drawn : Nat := 0
  /-- Whether the connection was closed. -/
  isClosed : Bool := false
  /-- Whether the store broke down during an operation of the connection. -/
  isPoisoned : Bool := false

/-- What a session has to do with. -/
structure Surroundings where
  catalogue : Catalogue
  store : Store
  /-- The numbers of which instance keys are made. -/
  draws : Nat → BitVec 128

/-- How a session ends without a result. -/
inductive Halt where
  | fault (fault : Fault)
  | crash
deriving DecidableEq, Repr

/-- A computation with a store. What it leaves behind stays, however it ends. -/
abbrev Session := ReaderT Surroundings (ExceptT Halt (StateM World))

namespace Session

variable {α : Type}

def run (session : Session α) (surroundings : Surroundings) (world : World) :
    Except Halt α × World :=
  StateT.run (ExceptT.run (ReaderT.run session surroundings)) world

def fail (fault : Fault) : Session α :=
  throw (.fault fault)

/-- Goes on with a result, or ends with a fault. -/
def lift : Except Fault α → Session α
  | .ok a => pure a
  | .error fault => fail fault

def record (event : Event) : Session Unit :=
  modify fun world => { world with events := world.events ++ [event] }

/-- Draws a number and makes an instance key of it. -/
def drawKey : Session String := do
  let drawn := (← get).drawn
  modify fun world => { world with drawn := drawn + 1 }
  return InstanceKey.ofNumber ((← read).draws drawn)

def send (call : Call) : Session (List Row) := do
  let exchanges := (← get).exchanges
  let reply := (← read).store exchanges call
  modify fun world => { world with exchanges := exchanges ++ [⟨call, reply⟩] }
  match reply with
  | .done rows => return rows
  | .refused text => fail (.store text)
  | .crashed => throw .crash

/-- Sends a statement without rows, about the given table. -/
def execute (table : Option String) (sql : String) : Session Unit := do
  record (.statementExecuted table sql)
  discard (send (.execute sql))

/-- Sends a statement with rows, about the given table. -/
def query (table : Option String) (sql : String) : Session (List Row) := do
  record (.queryExecuted table sql)
  send (.query sql)

def dialect : Session Dialect :=
  return (← read).catalogue.dialect

/-- Creates a table, and records what became of it. -/
def createTable (schema : Schema) : Session Unit := do
  let sql := (CreateTable.ofSchema schema).render (← dialect)
  try
    discard (send (.execute sql))
  catch halt =>
    if let .fault fault := halt then record (.tableRefused schema.table sql fault)
    throw halt
  record (.tableCreated schema.table sql)

/-- Creates the tables of the catalogue, up to the first that is refused. -/
def createTables : Session Unit := do
  (← read).catalogue.schemas.forM createTable

end Session

end RecordMapper
