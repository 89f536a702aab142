import RecordMapper.Json.Decode
import RecordMapper.Log.Event
import RecordMapper.Query
import RecordMapper.Dialect

/-!
# Schemas in JSON

Each of the types below is written in one way and read in any way that JSON allows for it.

* `Schema.toJson`, `Schema.ofJson?`, and the same for columns and relations: structures.
* `ColumnKind.toJson`, `ColumnKind.ofJson?`, and the same for sides, dialects, directions and
  levels: alternatives.
-/

namespace RecordMapper

/-! ## Alternatives -/

namespace ColumnKind

/-- The JSON form of a kind. -/
def toJson : ColumnKind → Json
  | .primary => .str "primary_u_int32"
  | .int32 => .str "int32"
  | .uint32 => .str "u_int32"
  | .varchar maxLength => .record [("varchar", .record [("max_length", .nat maxLength.toNat)])]

/-- The kind of a JSON form. -/
def ofJson? (value : Json) : Option ColumnKind :=
  match value.variant? with
  | some ("varchar", some body) => do
    match ← body.fields? ["max_length"] with
    | [maxLength] => return .varchar (← maxLength.word?)
    | _ => none
  | _ =>
    match value.plainVariant? with
    | some "primary_u_int32" => some .primary
    | some "int32" => some .int32
    | some "u_int32" => some .uint32
    | _ => none

end ColumnKind

namespace Side

/-- The JSON form of a side. -/
def toJson (side : Side) : Json := .str side.name

/-- The side of a JSON form. -/
def ofJson? (value : Json) : Option Side :=
  match value.plainVariant? with
  | some "left" => some .left
  | some "right" => some .right
  | _ => none

end Side

namespace Dialect

/-- The dialect of a name. -/
def ofName? : String → Option Dialect
  | "mariadb" => some .mariadb
  | "sqlite" => some .sqlite
  | _ => none

/-- The JSON form of a dialect. -/
def toJson (dialect : Dialect) : Json := .str dialect.name

/-- The dialect of a JSON form. -/
def ofJson? (value : Json) : Option Dialect :=
  value.plainVariant?.bind ofName?

end Dialect

namespace Direction

/-- The JSON form of a direction. -/
def toJson : Direction → Json
  | .ascending => .str "asc"
  | .descending => .str "desc"

/-- The direction of a JSON form. -/
def ofJson? (value : Json) : Option Direction :=
  match value.plainVariant? with
  | some "asc" => some .ascending
  | some "desc" => some .descending
  | _ => none

end Direction

namespace Level

/-- The level of a name. -/
def ofName? : String → Option Level
  | "debug" => some .debug
  | "info" => some .info
  | "warn" => some .warn
  | "error" => some .error
  | _ => none

/-- The JSON form of a level. -/
def toJson (level : Level) : Json := .str level.name

/-- The level of a JSON form. -/
def ofJson? (value : Json) : Option Level :=
  value.plainVariant?.bind ofName?

end Level

/-! ## Structures -/

namespace Column

/-- The JSON form of a column. -/
def toJson (column : Column) : Json :=
  .record [("name", .str column.name), ("kind", column.kind.toJson),
    ("is_primary", .bool column.isPrimary), ("is_nullable", .bool column.isNullable)]

/-- The column of a JSON form. -/
def ofJson? (value : Json) : Option Column := do
  match ← value.fields? ["name", "kind", "is_primary", "is_nullable"] with
  | [name, kind, isPrimary, isNullable] =>
    return {
      name := ← name.string?
      kind := ← ColumnKind.ofJson? kind
      isPrimary := ← isPrimary.boolean?
      isNullable := ← isNullable.boolean? }
  | _ => none

end Column

namespace Relation

/-- The JSON form of a relation. -/
def toJson (relation : Relation) : Json :=
  .record [("key", .str relation.key), ("target_table", .str relation.targetTable),
    ("target_key", .str relation.targetKey), ("direction", relation.side.toJson)]

/-- The relation of a JSON form. -/
def ofJson? (value : Json) : Option Relation := do
  match ← value.fields? ["key", "target_table", "target_key", "direction"] with
  | [key, targetTable, targetKey, side] =>
    return {
      key := ← key.string?
      targetTable := ← targetTable.string?
      targetKey := ← targetKey.string?
      side := ← Side.ofJson? side }
  | _ => none

end Relation

namespace Schema

/-- The JSON form of a schema. -/
def toJson (schema : Schema) : Json :=
  .record [("table", .str schema.table), ("columns", .array (schema.columns.map Column.toJson)),
    ("relations", .array (schema.relations.map Relation.toJson))]

/-- The schema of a JSON form. -/
def ofJson? (value : Json) : Option Schema := do
  match ← value.fields? ["table", "columns", "relations"] with
  | [table, columns, relations] =>
    return {
      table := ← table.string?
      columns := ← columns.items? Column.ofJson?
      relations := ← relations.items? Relation.ofJson? }
  | _ => none

end Schema

end RecordMapper
