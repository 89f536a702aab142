import RecordMapper.Log.Event
import RecordMapper.Schema.Lookup
import RecordMapper.Statement.CreateTable

/-!
# Registered schemas

* `Registry`: the schemas of the tables of a store, as they are declared.
* `Registry.check`: whether the schemas belong together, and if not, the first reason.
* `Catalogue`: schemas that belong together.
* `Catalogue.requireTable`, `Catalogue.requireLayout`: the schema of a table.
-/

namespace RecordMapper

/-- Schemas in the order of their registration. -/
structure Registry where
  dialect : Dialect
  schemas : List Schema := []

namespace Registry

def register (registry : Registry) (schema : Schema) : Registry :=
  { registry with schemas := registry.schemas ++ [schema] }

/-! ## Checks -/

/-- A name must not be empty, and no backtick may end it early where it is written. -/
def checkName (role : NameRole) (name : String) : Except Fault Unit :=
  if name.isEmpty then .error (.nameEmpty role)
  else if '\x60' ∈ name.toList then .error (.nameBacktick role name)
  else .ok ()

/-- Tables have names, and no two tables have the same. -/
def checkTables (seen : List String) : List Schema → Except Fault Unit
  | [] => .ok ()
  | schema :: rest => do
    checkName .table schema.table
    if schema.table ∈ seen then throw (.tableRepeated schema.table)
    checkTables (schema.table :: seen) rest

/-- The members of a table have names, none has the name of the instance key, and no two have the
same. -/
def checkMembers (table : String) (seen : List String) :
    List (NameRole × String) → Except Fault Unit
  | [] => .ok ()
  | (role, name) :: rest => do
    checkName role name
    if name = instanceKeyColumn then throw (.nameReserved role table name)
    if name ∈ seen then throw (.nameRepeated role table name)
    checkMembers table (name :: seen) rest

/-- A column is marked as primary exactly if it is of that kind, and the length of text is within
its bounds. -/
def checkColumn (table : String) (column : Column) : Except Fault Unit := do
  if column.isPrimary != (column.kind == .primary) then throw (.primaryKind table column.name)
  match column.kind with
  | .varchar maxLength =>
    unless 1 ≤ maxLength.toNat ∧ maxLength.toNat ≤ maxVarcharLength do
      throw (.varcharLength table column.name maxLength)
  | _ => return ()

/-- What a schema must be like, whatever other schemas there are. -/
def checkSchema (schema : Schema) : Except Fault Unit := do
  checkMembers schema.table [] <|
    schema.columns.map (NameRole.column, ·.name) ++ schema.relations.map (NameRole.relation, ·.key)
  let primaries := schema.columns.countP (·.isPrimary)
  if primaries ≠ 1 then throw (.primaryCount schema.table primaries)
  schema.columns.forM (checkColumn schema.table)

/-- Whether a relation of one table and a relation of another are the two sides of one. -/
def isOppositeOf (table : String) (relation back : Relation) : Bool :=
  back.targetTable == table && back.targetKey == relation.key &&
    back.side == relation.side.opposite

/-- A relation leads to a registered table, where its other side is declared. -/
def checkRelation (schemas : List Schema) (table : String) (relation : Relation) :
    Except Fault Unit :=
  match schemas.find? (·.table == relation.targetTable) with
  | none => .error (.targetUnregistered table relation.key relation.targetTable)
  | some target =>
    if (target.relation? relation.targetKey).any (isOppositeOf table relation) then .ok ()
    else .error (.relationUnmatched table relation)

/-- Whether schemas belong together: first their tables, then each schema by itself, then their
relations. -/
def check (schemas : List Schema) : Except Fault Unit := do
  checkTables [] schemas
  schemas.forM checkSchema
  schemas.forM fun schema => schema.relations.forM (checkRelation schemas schema.table)

end Registry

/-! ## Catalogues -/

/-- Schemas that belong together. -/
structure Catalogue where
  dialect : Dialect
  schemas : List Schema
  valid : Registry.check schemas = .ok ()

namespace Catalogue

def schema? (catalogue : Catalogue) (table : String) : Option Schema :=
  catalogue.schemas.find? (·.table == table)

def requireTable (catalogue : Catalogue) (table : String) : Except Fault Schema :=
  match catalogue.schema? table with
  | some schema => .ok schema
  | none => .error (.tableUnregistered table)

/-- The schema of a table, which has to be registered with the given layout. -/
def requireLayout (catalogue : Catalogue) (schema : Schema) : Except Fault Schema := do
  let registered ← catalogue.requireTable schema.table
  if registered = schema then return registered
  throw (.layoutDiffers schema.table)

/-- The statements that create the tables, in the order of their registration. -/
def createStatements (catalogue : Catalogue) : List String :=
  catalogue.schemas.map fun schema => (CreateTable.ofSchema schema).render catalogue.dialect

end Catalogue

namespace Registry

/-- The catalogue of the registered schemas. -/
def validate (registry : Registry) : Except Fault Catalogue :=
  match h : check registry.schemas with
  | .ok () => .ok { dialect := registry.dialect, schemas := registry.schemas, valid := h }
  | .error fault => .error fault

/-- What the log says of the validation. -/
def validationEvent (registry : Registry) : Event :=
  match check registry.schemas with
  | .ok () => .registryValidated registry.schemas.length
  | .error fault => .registryRefused fault

/-- What the log says of the registrations and the validation. -/
def events (registry : Registry) : List Event :=
  registry.schemas.map (Event.schemaRegistered ·.table) ++ [registry.validationEvent]

end Registry

end RecordMapper
