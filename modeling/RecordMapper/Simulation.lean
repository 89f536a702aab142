import RecordMapper.Simulation.Handle
import RecordMapper.Simulation.Sql

/-!
# Simulation

* `Simulation.World`: a folder and the connections that work on it.
* `Simulation.system`: the system of the folder.
* `Simulation.engine`: an engine that knows one table and a few statements.

The engine stands in for one that holds databases in earnest, so that databases can be tried out
where there is none.
-/

namespace RecordMapper.Simulation

open Database (Answer Engine JournalMode SyncMode)

/-! ## Worlds -/

/-- What is in memory. -/
structure Volatile where
  medium : Medium
  image : Image := {}
  /-- The name under which it is shared, if it is. -/
  share : Option (Medium × String) := none
  isReadOnly : Bool := false

/-- Where a connection keeps what it holds. -/
inductive Storage where
  | memory (volatile : Volatile)
  | file (handle : Handle)

namespace Storage

/-- The open file of a connection. -/
def handle? : Storage → Option Handle
  | .file handle => some handle
  | .memory _ => none

/-- What a connection has in memory. -/
def volatile? : Storage → Option Volatile
  | .memory volatile => some volatile
  | .file _ => none

end Storage

/-- A connection. -/
structure Connection where
  storage : Storage
  /-- The name of the mode in which changes are kept from being lost halfway. -/
  journalMode : String
  sync : SyncMode := .full
  /-- How long it waits for others, in milliseconds. -/
  busyTimeout : Nat := Database.defaultBusyTimeout.toNat

/-- A folder and the open connections, each by its number. -/
structure World where
  folder : Folder Content := {}
  connections : List (Nat × Connection) := []
  /-- How many connections there were. -/
  made : Nat := 0

namespace World

/-- The connection of a number. -/
def connection? (world : World) (number : Nat) : Option Connection :=
  (world.connections.find? (·.1 == number)).map (·.2)

/-- The connections without that of a number. -/
def others (world : World) (number : Nat) : List Connection :=
  (world.connections.filter (·.1 != number)).map (·.2)

/-- The open files beside that of a connection. -/
def otherHandles (world : World) (number : Nat) : List Handle :=
  (world.others number).filterMap (·.storage.handle?)

/-- Adds a connection. Its number is new. -/
def add (world : World) (connection : Connection) : Nat × World :=
  (world.made, { world with
    connections := world.connections ++ [(world.made, connection)]
    made := world.made + 1 })

/-- Puts a connection in place of that of a number. -/
def put (world : World) (number : Nat) (connection : Connection) : World :=
  { world with
    connections := world.connections.map fun item =>
      if item.1 == number then (number, connection) else item }

/-- Takes a connection away. Its file is closed beside the others. -/
def remove (world : World) (number : Nat) : World :=
  { world with
    folder :=
      match (world.connection? number).bind (·.storage.handle?) with
      | some handle => handle.close (world.otherHandles number) world.folder
      | none => world.folder
    connections := world.connections.filter (·.1 != number) }

/-- Does some work with the open file of a connection. -/
def perform {α : Type} (world : World) (number : Nat) (connection : Connection) (handle : Handle)
    (work : Work α) : Except EngineFault α × Connection × World :=
  let (result, handle, folder) := work.run.run (handle, world.folder)
  let connection := { connection with storage := .file handle }
  (result, connection, { world with folder }.put number connection)

end World

/-- The system of the folder. -/
def system : System World :=
  Folder.system.onPart World.folder fun folder world => { world with folder }

/-! ## Connecting -/

/-- A connection to an address that is in memory. Under a name that is shared it may be there
already. -/
def openVolatile (address : Address) (world : World) : Connection :=
  let fresh : Volatile := {
    medium := address.medium
    share := address.sharedName?
    isReadOnly := address.access == .readOnly ||
      (address.medium == .memoryFile && address.isFrozen) }
  let shared := (world.connections.filterMap (·.2.storage.volatile?)).find? fun volatile =>
    fresh.share.isSome && volatile.share == fresh.share
  { storage := .memory (shared.getD fresh)
    journalMode := if address.medium == .unnamedFile then "delete" else "memory" }

/-- Connects to the database of an address. -/
def connectTo (path : Path) (address : Address) (world : World) : Except String Nat × World :=
  match address.medium with
  | .file =>
    match enter? address (world.connections.filterMap (·.2.storage.handle?)) world.folder with
    | none => (.error (EngineFault.cannotOpen path).detail, world)
    | some (handle, folder) =>
      let (number, world) := { world with folder }.add {
        storage := .file handle
        journalMode := handle.journal.name }
      (.ok number, world)
  | _ =>
    let (number, world) := world.add (openVolatile address world)
    (.ok number, world)

/-- Connects to the database of a path, which must not hold a zero. -/
def connect (path : Path) (world : World) : Except String Nat × World :=
  match zeroPosition? path.text, Address.ofText path.text with
  | some position, _ =>
    (.error s!"nul byte found in provided data at position: {Decimal.ofNat position}", world)
  | none, .error cause => (.error cause.detail, world)
  | none, .ok address => connectTo path address world

/-! ## Commands -/

/-- Sets the mode of a connection. In memory there is not much to choose. -/
def setJournal (journal : JournalMode) (number : Nat) (connection : Connection) (world : World) :
    Except EngineFault Unit × World :=
  match connection.storage with
  | .memory volatile =>
    if volatile.medium = .memoryFile ∧ journal = .delete then
      (.ok (), world.put number { connection with journalMode := "delete" })
    else (.ok (), world)
  | .file handle =>
    match world.perform number connection handle
      (do
        Handle.start journal (world.otherHandles number)
        return (← Work.handle).journal.name) with
    | (.error fault, _, world) => (.error fault, world)
    | (.ok journalMode, connection, world) =>
      (.ok (), world.put number { connection with journalMode })

/-- What a connection tells of its use. -/
def Connection.tell (connection : Connection) : Pragma → Database.Datum
  | .journalMode => .text connection.journalMode.toUTF8
  | .synchronous => .integer (Int64.ofNat connection.sync.code)
  | .foreignKeys => .integer 1
  | .busyTimeout => .integer (Int64.ofNat connection.busyTimeout)

/-- Answers a statement from what is in memory. -/
def Volatile.answer (volatile : Volatile) (statement : Statement) :
    Except EngineFault (Answer × Volatile) := do
  let (answer, image) ← volatile.image.run statement
  if volatile.isReadOnly && image ≠ volatile.image then throw .readOnly
  return (answer, { volatile with image })

/-- Answers a statement. What does not change the contents does not change the file. -/
def answer (statement : Statement) (number : Nat) (connection : Connection) (world : World) :
    Except EngineFault Answer × World :=
  match connection.storage with
  | .memory volatile =>
    match volatile.answer statement with
    | .error fault => (.error fault, world)
    | .ok (answer, volatile) =>
      (.ok answer, world.put number { connection with storage := .memory volatile })
  | .file handle =>
    let (result, _, world) := world.perform number connection handle (Handle.answer statement)
    (result, world)

/-- What a command is answered that tells nothing. -/
def nothing : Answer := { columns := [], rows := [] }

/-- Follows a command. -/
def follow (command : Command) (number : Nat) (connection : Connection) (world : World) :
    Except EngineFault Answer × World :=
  match command with
  | .keepReferences => (.ok nothing, world)
  | .setJournal journal =>
    let (result, world) := setJournal journal number connection world
    (result.map fun _ => nothing, world)
  | .setSync sync => (.ok nothing, world.put number { connection with sync })
  | .tell pragma => (.ok { columns := ["value"], rows := [[connection.tell pragma]] }, world)
  | .answer statement => answer statement number connection world

/-- Answers a text. -/
def query (number : Nat) (sql : String) (world : World) : Except String Answer × World :=
  match world.connection? number, Command.ofText? sql with
  | none, _ => (.error "no connection", world)
  | _, none => (.error "syntax error", world)
  | some connection, some command =>
    let (result, world) := follow command number connection world
    (result.mapError EngineFault.detail, world)

/-! ## The engine -/

/-- Tells a connection how long to wait. -/
def setBusyTimeout (number time : Nat) (world : World) : Outcome String Unit × World :=
  if time ≤ Engine.maxBusyTimeout then
    match world.connection? number with
    | none => (.failed "no connection", world)
    | some connection => (.done (), world.put number { connection with busyTimeout := time })
  else (.crashed, world)

/-- An engine that knows one table and a few statements. -/
def engine : Engine World Nat where
  connect
  connectInMemory world :=
    let (number, world) := world.add {
      storage := .memory { medium := .memory }
      journalMode := "memory" }
    (.ok number, world)
  execute number sql world :=
    let (result, world) := query number sql world
    (result.map fun _ => (), world)
  query
  setBusyTimeout
  close number world := (.ok (), world.remove number)
  drop number world := world.remove number

end RecordMapper.Simulation
