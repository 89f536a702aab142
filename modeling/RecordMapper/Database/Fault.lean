import RecordMapper.Database.Datum
import RecordMapper.Database.Settings

/-!
# Faults of a database

* `Database.Fault`: why a database cannot be opened or does not answer.
* `Database.Fault.message`, `Database.Fault.reply`: the words of a fault by itself, and those that
  answer a call.
-/

namespace RecordMapper.Database

/-- Why a database cannot be opened or does not answer. -/
inductive Fault where
  /-- No directory is above that of the path. -/
  | noParent
  /-- The system refused, in words of its own. -/
  | io (words : String)
  /-- The engine refused, in words of its own. -/
  | engine (words : String)
  | path (cause : PathFault)
  | column (cause : ColumnFault)
  | closed
deriving DecidableEq, Repr

namespace Fault

/-- The words of a fault. -/
def message : Fault → String
  | .noParent => "sqlite store io error: store path missing parent directory"
  | .io words => "sqlite store io error: " ++ words
  | .engine words => "sqlite store db error: " ++ words
  | .path cause => "sqlite store invalid data: " ++ cause.detail
  | .column cause => "sqlite store invalid data: " ++ cause.detail
  | .closed => "sqlite store closed"

/-- The words that answer a call. Those of the engine stand by themselves. -/
def reply : Fault → String
  | .engine words => words
  | fault => fault.message

end Fault

end RecordMapper.Database
