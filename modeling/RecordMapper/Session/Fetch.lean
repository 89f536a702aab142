import RecordMapper.Session
import RecordMapper.Statement.Select
import RecordMapper.Statement.Write

/-!
# Reading and writing records

* `Record.ofRow`: the record of a row, without its peers.
* `Session.hydrate`: the record of a row, with the peers that are asked for.
* `Session.insert`, `Session.select`, `Session.update`, `Session.delete`: the four uses of a table.
-/

namespace RecordMapper

/-! ## Records of rows -/

namespace Record

/-- The cell of a column in a row. Only the columns of a set are read, or all of them if it is
empty. -/
def fieldOfRow (table : String) (columns : NameSet) (row : Row) (column : Column) :
    Except Fault (Column × Cell Value) :=
  if columns.isEmpty || decide (column.name ∈ columns) then
    match row.get? column.name with
    | some text => (column, ·) <$> column.read text
    | none => .error (.rowColumnMissing table column.name)
  else .ok (column, .undefined)

def keyOfRow (row : Row) : Cell String :=
  match row.get? instanceKeyColumn with
  | some text => .ofOption text
  | none => .undefined

/-- The record of a row, without its peers. -/
def ofRow (schema : Schema) (columns : NameSet) (row : Row) : Except Fault Record := do
  let fields ← schema.columns.mapM (fieldOfRow schema.table columns row)
  return { empty schema with fields, key := keyOfRow row }

end Record

namespace Session

/-! ## Peers -/

/-- The one row of a table in which a column has a text, as a record; null if there is no such
row. -/
def fetchPeer (target : Schema) (relation : Relation) (column key : String) :
    Session (Cell Record) := do
  let sql := (Select.byKey target.table column key).render (← dialect)
  match ← query (some target.table) sql with
  | [] => return .null
  | [row] => return .present (← lift (Record.ofRow target .empty row))
  | rows => fail (.peerCount relation.key target.table rows.length)

/-- The peer of a row in a relation. A relation with a column of its own has the instance key of the
peer there; the peer of any other has the instance key of the row. -/
def resolve (table : String) (row : Row) (relation : Relation) : Session (Cell Record) := do
  let target ← lift ((← read).catalogue.requireTable relation.targetTable)
  match relation.side with
  | .left =>
    match row.get? relation.key with
    | none => fail (.rowColumnMissing table relation.key)
    | some none => return .null
    | some (some key) => fetchPeer target relation instanceKeyColumn key
  | .right =>
    match Record.keyOfRow row with
    | .present key => fetchPeer target relation relation.targetKey key
    | _ => fail (.relationWithoutKey table relation.key)

/-- The record of a row, with its peers in the relations of a set. -/
def hydrate (schema : Schema) (columns relations : NameSet) (row : Row) : Session Record := do
  let record ← lift (Record.ofRow schema columns row)
  let links ← schema.relations.mapM fun relation => do
    if relation.key ∈ relations then
      let peer ← resolve schema.table row relation
      return (relation, ← lift (relation.checkPeer peer))
    else return (relation, .undefined)
  return { record with links }

/-! ## Uses of a table -/

/-- Inserts a record under a new instance key, and reads it back by that key, since the store fills
the primary column. The peers of the record stay with it. -/
def insert (record : Record) : Session Record := do
  let key ← drawKey
  let staged ← lift (record.setKey key)
  let sql := (← lift (Insert.ofRecord staged)).render (← dialect)
  execute (some record.table) sql
  let reselect := (Select.byKey record.table instanceKeyColumn key).render (← dialect)
  match ← query (some record.table) reselect with
  | [row] =>
    let stored ← hydrate record.schema .empty .empty row
    let links ← record.links.mapM fun link => do
      return (link.1, ← lift (link.1.checkPeer link.2))
    return { stored with links }
  | rows => fail (.reselectCount record.table rows.length)

def select (schema : Schema) (query : Query) : Session (List Record) := do
  let sql := (← lift (Select.ofQuery schema query)).render (← dialect)
  let rows ← Session.query (some schema.table) sql
  rows.mapM (hydrate schema query.columns query.relations)

/-- Changes the rows of a query to what is set in a record. -/
def update (record : Record) (query : Query) : Session Unit := do
  let sql := (← lift (Update.ofRecord record query)).render (← dialect)
  execute (some record.table) sql

def delete (schema : Schema) (query : Query) : Session Unit := do
  let sql := (← lift (Delete.ofQuery schema query)).render (← dialect)
  execute (some schema.table) sql

end Session

end RecordMapper
