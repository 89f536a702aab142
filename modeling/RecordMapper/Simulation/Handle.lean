import RecordMapper.Simulation.Place

/-!
# Open files of simulated databases

* `Simulation.Handle`: the open file of a database.
* `Simulation.Work`: what is done with an open file in its folder, and may end with a fault.
* `Simulation.enter?`: how the file of an address is opened.
* `Simulation.Handle.start`: how a file is begun to be used.
* `Simulation.Handle.answer`: how a statement is answered.
* `Simulation.Handle.close`: how a file is closed.

A database in the mode `wal` has a log beside its file, and an index of the log. Both are made when
the database is first read, and are taken away when the last connection that has read it is closed.
-/

namespace RecordMapper.Simulation

open Database (Answer JournalMode)

/-! ## Handles -/

/-- The open file of a database. -/
structure Handle where
  place : List String
  /-- The mode of the database, as far as it was read. -/
  journal : JournalMode := .delete
  isLogOpen : Bool := false
  /-- Whether its use was begun. -/
  isStarted : Bool := false
  isReadOnly : Bool
  /-- Whether the database may have a log. -/
  allowsLog : Bool
  /-- Whether the index of a log is a file. -/
  hasIndexFile : Bool
  /-- Whether the file is taken to be one that nobody changes. -/
  isFrozen : Bool
  isShared : Bool
deriving DecidableEq, Repr

/-- The place beside a file whose name has the given ending more. -/
def placeBeside (place : List String) (ending : String) : List String :=
  place.dropLast ++ [place.getLastD "" ++ ending]

namespace Handle

/-- The place of the log. -/
def logPlace (handle : Handle) : List String := placeBeside handle.place "-wal"

/-- The place of the index of the log. -/
def indexPlace (handle : Handle) : List String := placeBeside handle.place "-shm"

/-- The place of the contents before a change, where there is no log. -/
def undoPlace (handle : Handle) : List String := placeBeside handle.place "-journal"

/-- Whether another connection uses the log of a database. -/
def hasLogIn (handle other : Handle) : Bool :=
  other.place == handle.place && other.isLogOpen

/-- Whether two connections use a file as one. -/
def joins (handle other : Handle) : Bool :=
  other.place == handle.place && handle.isShared && other.isShared

end Handle

/-! ## Work -/

/-- What is done with an open file in its folder. What was done before a fault stays done. -/
abbrev Work (α : Type) := ExceptT EngineFault (StateM (Handle × Folder Content)) α

namespace Work

/-- The open file. -/
def handle : Work Handle := return (← get).1

/-- The folder. -/
def folder : Work (Folder Content) := return (← get).2

/-- Changes what is known of the open file. -/
def changeHandle (change : Handle → Handle) : Work Unit :=
  modify fun state => (change state.1, state.2)

/-- Changes the folder. -/
def changeFolder (change : Folder Content → Folder Content) : Work Unit :=
  modify fun state => (state.1, change state.2)

/-- What the database holds, as long as nobody else uses it. -/
def image : Work Image := do
  let (handle, folder) ← get
  return (((folder.content? handle.place).bind Content.database?).map (·.1)).getD {}

/-- Makes a file beside that of the database where there is none. -/
def makeFile (place : List String) : Work Unit := do
  match (← folder).ensureFile place .empty with
  | some folder => changeFolder fun _ => folder
  | none => throw (.cannotOpen none)

/-- Opens the log. -/
def openLog : Work Unit := do
  let handle ← handle
  if !handle.allowsLog then throw (.cannotOpen none)
  makeFile handle.logPlace
  if handle.hasIndexFile then
    makeFile handle.indexPlace
    changeFolder (·.modify handle.indexPlace fun _ => .internal)
  changeHandle fun handle => { handle with journal := .wal, isLogOpen := true }

/-- Takes the log away. -/
def dropLog : Work Unit := do
  let handle ← handle
  changeFolder fun folder => (folder.erase handle.logPlace).erase handle.indexPlace
  changeHandle fun handle => { handle with isLogOpen := false }

/-- Settles a change that was left halfway. The contents before it were kept, so they are put back,
but a blank database has none. What begins with a zero was finished. -/
def settleUndo (isBlank : Bool) : Work Unit := do
  let (handle, folder) ← get
  match folder.entry? handle.undoPlace with
  | none => return
  | some .directory => if !isBlank then throw .inputOutput
  | some (.file content) =>
    if content.isEmpty || (!isBlank && content.startsWithZero) then return
    else if !handle.isReadOnly then changeFolder (·.erase handle.undoPlace)
    else if !isBlank then throw .readOnly

/-- Settles a log that was left behind. That of a blank database is of no use. -/
def settleLog (isBlank : Bool) : Work Unit := do
  let (handle, folder) ← get
  match folder.entry? handle.logPlace with
  | none => return
  | some .directory => if isBlank then throw .inputOutput else openLog
  | some (.file content) =>
    if content.isEmpty then return
    else if isBlank then changeFolder (·.erase handle.logPlace)
    else openLog

/-- What a database holds. When it is first read, what was left of earlier use is settled, and the
log is opened if there is to be one. -/
def read : Work Image := do
  let handle ← handle
  let some content := (← folder).content? handle.place | throw .inputOutput
  if !handle.isLogOpen && !handle.isFrozen then
    settleUndo content.isBlank
    settleLog content.isBlank
  match content.database? with
  | none => throw .notDatabase
  | some (image, journal) =>
    if journal = .wal && !(← Work.handle).isLogOpen && !handle.isFrozen then openLog
    return image

/-- Changes the contents, by way of the log if it is open. Without a log the former contents are
kept beside the file for as long as the change takes. -/
def write (change : Content → Content) : Work Unit := do
  let handle ← handle
  if handle.isReadOnly then throw .readOnly
  if handle.isLogOpen then
    changeFolder (·.modify handle.logPlace fun _ => .internal)
  else
    makeFile handle.undoPlace
    changeFolder (·.erase handle.undoPlace)
  changeFolder (·.modify handle.place change)

end Work

namespace Handle

/-! ## Use -/

/-- Sets the mode of a database beside other connections. A log is left only if no other connection
uses it. Where there can be no log the mode stays as it is. -/
def setJournal (journal : JournalMode) (others : List Handle) : Work Unit := do
  let handle ← Work.handle
  match journal, handle.journal with
  | .wal, .delete =>
    if handle.allowsLog then
      Work.write (·.withJournal .wal)
      Work.changeHandle ({ · with journal := .wal })
  | .delete, .wal =>
    if others.any fun other => handle.hasLogIn other && !handle.joins other then
      throw .locked
    if handle.isReadOnly then throw .inputOutput
    Work.dropLog
    Work.write (·.withJournal .delete)
    Work.changeHandle ({ · with journal := .delete })
  | _, _ => return

/-- Begins to use a file beside other connections: it is read if it was not, and its mode is
set. -/
def start (journal : JournalMode) (others : List Handle) : Work Unit := do
  if !(← Work.handle).isStarted then
    let _ ← Work.read
    Work.changeHandle ({ · with isStarted := true })
  setJournal journal others

/-- Answers a statement. One that is about no table does not touch the file. Whether the tables of
another fit is known before the file is read, and is said even if it cannot be read. -/
def answer (statement : Statement) : Work Answer := do
  match statement, (← Work.image).run statement with
  | .selectValues _, result => return (← result).1
  | _, .error fault =>
    try let _ ← Work.read catch _ => pure ()
    throw fault
  | _, .ok (answer, after) =>
    let image ← Work.read
    if after ≠ image then Work.write (·.withImage after)
    return answer

/-- Closes the file beside other connections. The last one that used the log takes it away, unless
it may not change anything or the file is gone. -/
def close (handle : Handle) (others : List Handle) (folder : Folder Content) : Folder Content :=
  if handle.isLogOpen && !handle.isReadOnly && !others.any handle.hasLogIn &&
      (folder.content? handle.place).isSome then
    (folder.erase handle.logPlace).erase handle.indexPlace
  else folder

end Handle

/-! ## Opening -/

/-- The open file of an address before it was read. -/
def handleOf (address : Address) (place : List String) : Handle where
  place
  isReadOnly := address.access == .readOnly || address.isFrozen
  allowsLog := address.layer != .plain && !address.isUnlocked && !address.isFrozen
  hasIndexFile := address.layer == .locking
  isFrozen := address.isFrozen
  isShared := address.isShared

/-- Opens the file of an address beside other connections. One that is shared goes on being used as
it is. -/
def enter? (address : Address) (others : List Handle) (folder : Folder Content) :
    Option (Handle × Folder Content) := do
  let place ← filePlace? folder.home ⟨address.name⟩
  let handle := handleOf address place
  match others.find? handle.joins with
  | some other => return (other, folder)
  | none => return (handle, ← locate? address place folder)

end RecordMapper.Simulation
