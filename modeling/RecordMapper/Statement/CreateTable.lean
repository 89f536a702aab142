import RecordMapper.Dialect

/-!
# Statements that create tables

* `CreateTable`, `CreateTable.ofSchema`: the table of a schema, with the columns that it has in the
  store.
-/

namespace RecordMapper

/-- What a column of the store holds. -/
inductive StoredType where
  | declared (kind : ColumnKind)
  | key
deriving DecidableEq, Repr

def StoredType.render (dialect : Dialect) : StoredType → String
  | .declared kind => dialect.columnType kind
  | .key => dialect.keyType

structure StoredColumn where
  name : String
  type : StoredType
  isRequired : Bool
deriving DecidableEq, Repr

def StoredColumn.render (dialect : Dialect) (column : StoredColumn) : String :=
  Dialect.identifier column.name ++ " " ++ column.type.render dialect ++
    if column.isRequired then " NOT NULL" else ""

/-- The columns that the table of a schema has in the store: the declared ones, that of the instance
key, and those of the relations that own one. -/
def Schema.storedColumns (schema : Schema) : List StoredColumn :=
  schema.columns.map
      (fun column => {
        name := column.name, type := .declared column.kind, isRequired := column.isRequired }) ++
    { name := instanceKeyColumn, type := .key, isRequired := true } ::
      schema.ownedRelations.map
        (fun relation => { name := relation.key, type := .key, isRequired := false })

/-- A table to create where there is none. -/
structure CreateTable where
  table : String
  columns : List StoredColumn
deriving DecidableEq, Repr

namespace CreateTable

def ofSchema (schema : Schema) : CreateTable where
  table := schema.table
  columns := schema.storedColumns

def render (dialect : Dialect) (create : CreateTable) : String :=
  "CREATE TABLE IF NOT EXISTS " ++ Dialect.identifier create.table ++ " (" ++
    ", ".intercalate (create.columns.map (·.render dialect)) ++ ")"

end CreateTable

theorem Schema.map_name_storedColumns (schema : Schema) :
    schema.storedColumns.map (·.name) = schema.storedNames := by
  simp [Schema.storedColumns, Schema.storedNames, Function.comp_def]

end RecordMapper
