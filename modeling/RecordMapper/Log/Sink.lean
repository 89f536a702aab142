import RecordMapper.Files.Content
import RecordMapper.Log.Event

/-!
# Sinks of a log

* `Sink`: where events go.
* `Output`: what sinks have written, to files and to the error stream.
* `Sink.openFile`: a sink that writes to a file after what is there.
* `Sink.record`, `Sink.recordAll`: what is written for an event, and for several.
-/

namespace RecordMapper

/-- Where events go. -/
inductive Sink where
  /-- To the error stream, if they reach a level. -/
  | stderr (least : Level)
  /-- To the end of a file, if they reach a level. -/
  | file (place : List String) (least : Level)
  /-- To nowhere. -/
  | none
deriving DecidableEq, Repr

/-- What sinks have written. -/
structure Output where
  folder : Folder Content := {}
  stderr : String := ""

namespace Sink

/-- A sink for the file of a path, which is made if it is missing. -/
def openFile {σ : Type} (system : System σ) (path : Path) (least : Level) (state : σ) :
    Except String (Sink × σ) := do
  let (place, state) ← system.openEnd path state
  return (.file place least, state)

/-- Writes an event that happened at a time. -/
def record (sink : Sink) (output : Output) (entry : Nat × Event) : Output :=
  match sink with
  | .stderr least => { output with stderr := output.stderr ++ Event.lines least [entry] }
  | .file place least =>
    { output with folder := output.folder.modify place (·.append (Event.lines least [entry])) }
  | .none => output

/-- Writes several events, one after the other. -/
def recordAll (sink : Sink) (output : Output) (entries : List (Nat × Event)) : Output :=
  entries.foldl sink.record output

end Sink

end RecordMapper
