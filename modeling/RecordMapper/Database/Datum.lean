import RecordMapper.Decimal.Shortest
import RecordMapper.Row

/-!
# Values in a database

* `Database.Datum`: a value as the database holds it.
* `Database.ColumnFault`: why a value has no text.
* `Database.Datum.render`: its text, or null, or why it has none.
* `Database.readRow`: the row of the values of several columns.
-/

namespace RecordMapper.Database

/-- Why a value of an answer has no text. -/
inductive ColumnFault where
  | notText (column : String)
  | blob (column : String)
deriving DecidableEq, Repr

/-- Why a value has no text, in words. -/
def ColumnFault.detail : ColumnFault → String
  | .notText column => s!"column [{column}] is not utf-8"
  | .blob column => s!"column [{column}] holds a blob"

/-- A value as the database holds it. The bytes of a text need not be those of characters. -/
inductive Datum where
  | null
  | integer (value : Int64)
  | real (value : Float)
  | text (bytes : ByteArray)
  | blob (bytes : ByteArray)

namespace Datum

/-- The text of a magnitude: the fewest digits that tell it apart, without an exponent. -/
def magnitudeText (bits : UInt64) : String :=
  let number := Decimal.Binary.ofBits bits
  if number.m = 0 then "0" else Decimal.positional number.shortest

/-- The text of a real number. A zero keeps its sign, and whole numbers have no point. -/
def realText (value : Float) : String :=
  if value.isNaN then "NaN"
  else (if value.toBits.toNat < 1 <<< 63 then "" else "-") ++
    if value.isInf then "inf" else magnitudeText value.toBits

/-- The text of the value of a column, or null. -/
def render (column : String) : Datum → Except ColumnFault (Option String)
  | .null => .ok none
  | .integer value => .ok (some (Decimal.ofInt value.toInt))
  | .real value => .ok (some (realText value))
  | .text bytes =>
    match String.fromUTF8? bytes with
    | some content => .ok (some content)
    | none => .error (.notText column)
  | .blob _ => .error (.blob column)

end Datum

/-- The row of the values of some columns. The first value without a text is the failure. -/
def readRow (columns : List (String × Datum)) : Except ColumnFault Row := do
  return Row.ofList (← columns.mapM fun column => do return (column.1, ← column.2.render column.1))

end RecordMapper.Database
