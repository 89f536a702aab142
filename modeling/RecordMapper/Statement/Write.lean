import RecordMapper.Record
import RecordMapper.Statement.Condition

/-!
# Statements that write rows

* `Insert`, `Insert.ofRecord`: a new row for a record.
* `Update`, `Update.ofRecord`: new values for the rows of a query.
* `Delete`, `Delete.ofQuery`: the removal of the rows of a query.

Each is made without regard to a dialect, which enters only when the statement is rendered.
-/

namespace RecordMapper

/-! ## Entries -/

/-- A column of the store and the literal to put there. -/
structure Entry where
  name : String
  literal : Literal
deriving DecidableEq, Repr

namespace Entry

/-- The entry of a cell that was set. -/
def ofCell? (name : String) (cell : Cell Value) : Option Entry :=
  cell.literal?.map ({ name, literal := · })

/-- The entry of a relation. Only a relation with a column of its own has one, and only if it was
set; what is written is the instance key of the peer. -/
def ofLink? (link : Relation × Cell Record) : Except Fault (Option Entry) :=
  if link.1.ownsColumn then
    match link.2 with
    | .undefined => .ok none
    | .null => .ok (some { name := link.1.key, literal := .null })
    | .present peer =>
      match peer.key with
      | .present key => .ok (some { name := link.1.key, literal := .text key })
      | _ => .error (.peerWithoutKey link.1.key)
  else .ok none

end Entry

/-- The entries of the relations of a record, in the order of their declaration. -/
def Record.linkEntries (record : Record) : Except Fault (List Entry) :=
  (·.filterMap id) <$> record.links.mapM Entry.ofLink?

/-! ## Insertion -/

structure Insert where
  table : String
  entries : List Entry
deriving DecidableEq, Repr

namespace Insert

/-- What a new row has in a column. The store fills the primary column; a required column has to
have a value. -/
def fieldEntry (table : String) (field : Column × Cell Value) : Except Fault (Option Entry) :=
  if field.1.isPrimary then .ok none
  else if field.1.isRequired && !field.2.isPresent then
    .error (.valueMissing table field.1.name)
  else .ok (Entry.ofCell? field.1.name field.2)

/-- What a new row has in the column of instance keys. -/
def keyEntry (record : Record) : Except Fault (Option Entry) :=
  match record.key with
  | .undefined => .ok none
  | .null => .error (.instanceKeyNull record.table)
  | .present key => .ok (some { name := instanceKeyColumn, literal := .text key })

/-- The new row of a record: its columns, its instance key, its relations. -/
def ofRecord (record : Record) : Except Fault Insert := do
  let fields ← record.fields.mapM (fieldEntry record.table)
  let key ← keyEntry record
  let links ← record.linkEntries
  return { table := record.table, entries := fields.filterMap id ++ key.toList ++ links }

def render (dialect : Dialect) (insert : Insert) : String :=
  "INSERT INTO " ++ Dialect.identifier insert.table ++ " " ++
    if insert.entries.isEmpty then dialect.defaultValues
    else
      "(" ++ ", ".intercalate (insert.entries.map (Dialect.identifier ·.name)) ++ ") VALUES (" ++
        ", ".intercalate (insert.entries.map (dialect.literal ·.literal)) ++ ")"

end Insert

/-! ## Change -/

structure Update where
  table : String
  entries : List Entry
  condition : Option Condition
deriving DecidableEq, Repr

namespace Update

/-- What a changed row gets in a column. The primary column is left alone; a required column cannot
lose its value. -/
def fieldEntry (table : String) (field : Column × Cell Value) : Except Fault (Option Entry) :=
  if field.1.isPrimary then .ok none
  else if field.1.isRequired && field.2.isNull then .error (.columnNull table field.1.name)
  else .ok (Entry.ofCell? field.1.name field.2)

/-- The change of the rows of a query to what is set in a record: its columns and its relations. -/
def ofRecord (record : Record) (query : Query) : Except Fault Update := do
  let condition ← query.mutationFilter record.schema .update
  let fields ← record.fields.mapM (fieldEntry record.table)
  let links ← record.linkEntries
  match fields.filterMap id ++ links with
  | [] => throw (.nothingToAssign record.table)
  | entries => return { table := record.table, entries, condition }

def render (dialect : Dialect) (update : Update) : String :=
  "UPDATE " ++ Dialect.identifier update.table ++ " SET " ++
    ", ".intercalate
      (update.entries.map fun entry =>
        Dialect.identifier entry.name ++ " = " ++ dialect.literal entry.literal) ++
    Condition.clause dialect update.condition

end Update

/-! ## Removal -/

structure Delete where
  table : String
  condition : Option Condition
deriving DecidableEq, Repr

namespace Delete

def ofQuery (schema : Schema) (query : Query) : Except Fault Delete := do
  return { table := schema.table, condition := ← query.mutationFilter schema .delete }

def render (dialect : Dialect) (delete : Delete) : String :=
  "DELETE FROM " ++ Dialect.identifier delete.table ++ Condition.clause dialect delete.condition

end Delete

end RecordMapper
