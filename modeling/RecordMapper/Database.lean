import RecordMapper.Database.Engine
import RecordMapper.Database.Fault

/-!
# Databases

* `Database`: a database, with its connection until it is closed.
* `Database.openInMemory`, `Database.openFile`: how a database is opened.
* `Database.execute`, `Database.query`: what it does and what it answers. A closed database answers
  nothing.
* `Database.close`: how it is closed.

The files are those of a system, and the connections those of an engine. Both are given, and so is
what the system is like.
-/

namespace RecordMapper

/-- A database. When it is closed, its connection is gone. -/
structure Database (κ : Type) where
  connection? : Option κ
deriving DecidableEq, Repr

namespace Database

variable {σ κ : Type} (system : System σ) (engine : Engine σ κ)

/-- Whether a database was closed. -/
def isClosed (database : Database κ) : Bool :=
  database.connection?.isNone

/-! ## Opening -/

/-- Opens a new database in memory. -/
def openInMemory (state : σ) : Except Fault (Database κ) × σ :=
  match engine.connectInMemory state with
  | (.error words, state) => (.error (.engine words), state)
  | (.ok connection, state) =>
    match engine.setUp connection [Settings.keepReferences] state with
    | (.error words, state) => (.error (.engine words), state)
    | (.ok connection, state) => (.ok ⟨some connection⟩, state)

/-- Makes the directories above a path that are missing. -/
def ensureParent (path : Path) (state : σ) : Except Fault Unit × σ :=
  match path.parent? with
  | none => (.error .noParent, state)
  | some parent =>
    let (result, state) := system.ensureDirectories parent state
    (result.mapError .io, state)

/-- Connects to the file of a database and sets the connection up, all but the time to wait. Missing
directories are made, and so is the file. -/
def attach (settings : Settings) (state : σ) : Except Fault κ × σ :=
  match settings.validate system state with
  | .error cause => (.error (.path cause), state)
  | .ok () =>
    match ensureParent system settings.path state with
    | (.error fault, state) => (.error fault, state)
    | (.ok (), state) =>
      match engine.connect settings.path state with
      | (.error words, state) => (.error (.engine words), state)
      | (.ok connection, state) =>
        let (result, state) := engine.setUp connection settings.setup state
        (result.mapError .engine, state)

/-- Opens a database in a file. Unless it can be told how long to wait, it is given up again. -/
def openFile (settings : Settings) (state : σ) : Outcome Fault (Database κ) × σ :=
  match attach system engine settings state with
  | (.error fault, state) => (.failed fault, state)
  | (.ok connection, state) =>
    match engine.setBusyTimeout connection settings.busyTimeout.toNat state with
    | (.done (), state) => (.done ⟨some connection⟩, state)
    | (.failed words, state) => (.failed (.engine words), engine.drop connection state)
    | (.crashed, state) => (.crashed, engine.drop connection state)

/-! ## Use -/

/-- Executes a statement. -/
def execute (database : Database κ) (sql : String) (state : σ) : Except Fault Unit × σ :=
  match database.connection? with
  | none => (.error .closed, state)
  | some connection =>
    let (result, state) := engine.execute connection sql state
    (result.mapError .engine, state)

/-- The rows of an answer. They are read in order, and the first fault counts. -/
def Answer.read (answer : Answer) : Except Fault (List Row) := do
  let rows ← answer.rows.mapM fun values =>
    (readRow (answer.columns.zip values)).mapError .column
  match answer.refusal with
  | some words => throw (.engine words)
  | none => return rows

/-- Answers a query by rows. -/
def query (database : Database κ) (sql : String) (state : σ) : Except Fault (List Row) × σ :=
  match database.connection? with
  | none => (.error .closed, state)
  | some connection =>
    match engine.query connection sql state with
    | (.error words, state) => (.error (.engine words), state)
    | (.ok answer, state) => (answer.read, state)

/-- Closes a database. One that was closed before stays as it is. -/
def close (database : Database κ) (state : σ) : Except Fault Unit × Database κ × σ :=
  match database.connection? with
  | none => (.ok (), database, state)
  | some connection =>
    let (result, state) := engine.close connection state
    (result.mapError .engine, ⟨none⟩, state)

end Database

end RecordMapper
