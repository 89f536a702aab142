import RecordMapper.Fault

/-!
# What a schema declares

* `Schema.requireColumn`, `Schema.requireRelation`: the member of a name, or the fault that there is
  none.
* `Column.checkCell`: which cells a column takes.
* `Cell.get`: what a cell holds, which must have been set.
* `ColumnKind.read`: the value of a stored text.
-/

namespace RecordMapper

namespace Schema

def requireColumn (schema : Schema) (name : String) : Except Fault Column :=
  match schema.column? name with
  | some column => .ok column
  | none => .error (.unknownColumn schema.table name)

def requireRelation (schema : Schema) (key : String) : Except Fault Relation :=
  match schema.relation? key with
  | some relation => .ok relation
  | none => .error (.unknownRelation schema.table key)

end Schema

/-- What a cell holds, if it is not null. The cell must have been set. -/
def Cell.get {α : Type} : Cell α → Except Fault (Option α)
  | .undefined => .error .cellUndefined
  | .null => .ok none
  | .present content => .ok (some content)

def withinLength (text : String) (maxLength : UInt64) : Bool :=
  text.length ≤ maxLength.toNat

/-- The value that a stored text stands for. -/
def ColumnKind.read (kind : ColumnKind) (text : String) : Except TextFault Value :=
  match kind with
  | .int32 =>
    match Decimal.readInt32 text with
    | .ok number => .ok (.int32 number)
    | .error cause => .error (.notInteger .int32 text cause)
  | .primary | .uint32 =>
    match Decimal.readUInt32 text with
    | .ok number => .ok (.uint32 number)
    | .error cause => .error (.notInteger .uint32 text cause)
  | .varchar maxLength =>
    if withinLength text maxLength then .ok (.text text) else .error (.tooLong maxLength)

/-- A value of the right type and length. -/
def Column.checkValue (column : Column) (value : Value) : Except Fault Value :=
  if column.kind.accepts value then
    match column.kind, value with
    | .varchar maxLength, .text content =>
      if withinLength content maxLength then .ok value
      else .error (.valueLength column.name maxLength)
    | _, _ => .ok value
  else .error (.valueType column.name value.type)

/-- A cell whose value, if it has one, is of the right type and length. -/
def Column.checkCell (column : Column) (cell : Cell Value) : Except Fault (Cell Value) :=
  cell.mapM column.checkValue

/-- The cell that a stored text stands for, where no text stands for null. -/
def Column.read (column : Column) : Option String → Except Fault (Cell Value)
  | none => .ok .null
  | some text =>
    match column.kind.read text with
    | .ok value => .ok (.present value)
    | .error cause => .error (.columnText column.name cause)

end RecordMapper
