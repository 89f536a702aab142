import RecordMapper.Json.Reader
import RecordMapper.Simulation.Image
import RecordMapper.Database.Settings

/-!
# Statements of simulated databases

* `Simulation.Command`: what a connection is asked: a statement, or something about its use.
* `Simulation.Command.ofText?`: the command of a text.

Only a few texts are commands. The values that are selected as one row are written in JSON, each by
the name of its column, its type and itself.
-/

namespace RecordMapper.Simulation

open Database (Datum JournalMode SyncMode)

/-- What a connection tells of its use. -/
inductive Pragma where
  | journalMode
  | synchronous
  | foreignKeys
  | busyTimeout
deriving DecidableEq, Repr

/-- The pragma of a name. -/
def Pragma.ofName? : String → Option Pragma
  | "journal_mode" => some .journalMode
  | "synchronous" => some .synchronous
  | "foreign_keys" => some .foreignKeys
  | "busy_timeout" => some .busyTimeout
  | _ => none

/-- What a connection is asked. -/
inductive Command where
  | keepReferences
  | setJournal (journal : JournalMode)
  | setSync (sync : SyncMode)
  | tell (pragma : Pragma)
  | answer (statement : Statement)

/-! ## Values -/

/-- The value of a real number in JSON, where the infinite ones are named. -/
def realOf? : Json → Option Float
  | .text (some "inf") => some (1 / 0)
  | .text (some "-inf") => some (-1 / 0)
  | .number n =>
    let magnitude := Float.ofScientific n.digits (n.scale < 0) n.scale.natAbs
    some (if n.negative then -magnitude else magnitude)
  | _ => none

/-- The bytes that are written in hexadecimal digits. -/
def bytesOf? (value : Json) : Option ByteArray := do
  return ⟨(← Text.hexBytes? (← value.string?).toList).toArray⟩

/-- The value of a type in JSON. -/
def datumOf? (type : String) (value : Json) : Option Datum :=
  match type, value with
  | "null", _ => some .null
  | "int", .number n => n.integer?.map (.integer ∘ Int64.ofInt)
  | "real", _ => .real <$> realOf? value
  | "text", _ => (.text ∘ String.toUTF8) <$> value.string?
  | "bytes", _ => .text <$> bytesOf? value
  | "blob", _ => .blob <$> bytesOf? value
  | _, _ => none

/-- A column and its value in JSON. -/
def columnOf? : Json → Option (String × Datum)
  | .array [name, type, value] => do return (← name.string?, ← datumOf? (← type.string?) value)
  | .array [name, type] => do return (← name.string?, ← datumOf? (← type.string?) .null)
  | _ => none

/-! ## Texts -/

/-- The part of a text between a beginning and an ending. -/
def between? (opening closing text : String) : Option String :=
  let length := text.length - opening.length - closing.length
  let inner := String.ofList ((text.toList.drop opening.length).take length)
  if text = opening ++ inner ++ closing then some inner else none

/-- The number of a statement that inserts it. -/
def insertedOf? (text : String) : Option Int64 := do
  let digits ← between? "INSERT INTO t VALUES (" ")" text
  let number ← (Decimal.readSigned (1 <<< 63) ((1 <<< 63) - 1) digits.toList).toOption
  return Int64.ofInt number

/-- The values of a statement that selects them. -/
def selectedOf? (text : String) : Option (List (String × Datum)) := do
  match ← (between? "SELECT " "" text).bind Json.read? with
  | .array columns => columns.mapM columnOf?
  | _ => none

/-- The statement of a text. -/
def Statement.ofText? (text : String) : Option Statement :=
  if text = "CREATE TABLE t (v INTEGER)" then some .createTable
  else if text = "SELECT v FROM t" then some .selectAll
  else (insertedOf? text).map .insert <|> (selectedOf? text).map .selectValues

/-- The command of a text. -/
def Command.ofText? (text : String) : Option Command :=
  if text = Database.Settings.keepReferences then some .keepReferences
  else
    ((between? "PRAGMA journal_mode = " ";" text).bind JournalMode.ofName?).map .setJournal <|>
      ((between? "PRAGMA synchronous = " ";" text).bind SyncMode.ofName?).map .setSync <|>
      ((between? "PRAGMA " "" text).bind Pragma.ofName?).map .tell <|>
      (Statement.ofText? text).map .answer

end RecordMapper.Simulation
