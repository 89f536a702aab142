import RecordMapper.Value

/-!
# Schemas

* `ColumnKind`, `Column`: a column of a table and what it holds.
* `Side`, `Relation`: one side of a link between the rows of two tables, one to one.
* `Schema`: the layout of a table.
* `instanceKeyColumn`: the column that every table has beside its declared ones.
* `maxVarcharLength`: the bound on the length of text columns.
-/

namespace RecordMapper

/-! ## Columns -/

inductive ColumnKind where
  /-- The number by which the store tells rows apart, and which the store assigns. -/
  | primary
  | int32
  | uint32
  /-- Text of at most `maxLength` characters. -/
  | varchar (maxLength : UInt64)
deriving DecidableEq, Repr

namespace ColumnKind

def valueType : ColumnKind → ValueType
  | .primary | .uint32 => .uint32
  | .int32 => .int32
  | .varchar _ => .text

/-- The greatest number of characters, for the kind that bounds it. -/
def maxLength? : ColumnKind → Option UInt64
  | .varchar maxLength => some maxLength
  | _ => none

/-- Whether a value has the type that this kind asks for. -/
def accepts (kind : ColumnKind) (value : Value) : Bool :=
  value.type == kind.valueType

end ColumnKind

structure Column where
  name : String
  kind : ColumnKind
  isPrimary : Bool
  isNullable : Bool
deriving DecidableEq, Repr

namespace Column

/-- A column that the caller fills. -/
def regular (name : String) (kind : ColumnKind) (isNullable : Bool) : Column :=
  { name, kind, isPrimary := false, isNullable }

/-- The column of row numbers that the store fills. -/
def primary (name : String) : Column :=
  { name, kind := .primary, isPrimary := true, isNullable := false }

/-- Whether a new row must bring a value for the column. -/
def isRequired (column : Column) : Bool :=
  !column.isPrimary && !column.isNullable

end Column

/-! ## Relations -/

inductive Side where
  /-- Has a column with the instance key of the peer. -/
  | left
  /-- Has no column, and is found by looking for the peer that names it. -/
  | right
deriving DecidableEq, Repr

namespace Side

/-- The side that the peer has. -/
def opposite : Side → Side
  | .left => .right
  | .right => .left

def name : Side → String
  | .left => "left"
  | .right => "right"

end Side

/-- A declared relation to the rows of a table, where it is declared as `targetKey`. -/
structure Relation where
  key : String
  targetTable : String
  targetKey : String
  side : Side
deriving DecidableEq, Repr

/-- Whether this side of the relation has a column of its own. -/
def Relation.ownsColumn (relation : Relation) : Bool :=
  relation.side == .left

/-! ## Tables -/

/-- The column that holds the instance key of a row, in every table. -/
def instanceKeyColumn : String := "__instance_key"

def instanceKeyLength : Nat := 36

/-- The greatest number of characters that a column of a registered table may allow. -/
def maxVarcharLength : Nat := 65535

/-- The layout of a table: its columns and its relations, in the order of their declaration. -/
structure Schema where
  table : String
  columns : List Column
  relations : List Relation
deriving DecidableEq, Repr

namespace Schema

/-- The first column of a name. -/
def column? (schema : Schema) (name : String) : Option Column :=
  schema.columns.find? (·.name == name)

def relation? (schema : Schema) (key : String) : Option Relation :=
  schema.relations.find? (·.key == key)

/-- The first column that is marked as primary. -/
def primaryKey? (schema : Schema) : Option Column :=
  schema.columns.find? (·.isPrimary)

def ownedRelations (schema : Schema) : List Relation :=
  schema.relations.filter (·.ownsColumn)

/-- The columns that the table has in the store: the declared ones, that of the instance key, and
those of the relations. -/
def storedNames (schema : Schema) : List String :=
  schema.columns.map (·.name) ++ instanceKeyColumn :: schema.ownedRelations.map (·.key)

end Schema

end RecordMapper
