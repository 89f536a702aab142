import RecordMapper.Entity
import RecordMapper.Session.Fetch

/-!
# Connections

* `Session.guarded`: an operation of a connection. A connection that was closed, or whose store
  broke down, refuses it, and every failure is recorded.
* `Session.close`: the end of a connection.
* `Operation`, `Operation.run`: what a caller may ask of a connection, and what comes of it: the use
  of a table through entities or through records, statements as they are, and the end.
-/

namespace RecordMapper

namespace Session

variable {α : Type}

/-! ## Access to the store -/

def poison : Session Unit :=
  modify fun world => { world with isPoisoned := true }

/-- Lets a session have the store, unless the connection is of no use any more. -/
def withStore (session : Session α) : Session α := do
  if (← get).isClosed then fail .connectionClosed
  if (← get).isPoisoned then fail .connectionPoisoned
  try session
  catch halt =>
    if halt = .crash then poison
    throw halt

/-- Runs an operation, about the given table, and records its failure. -/
def guarded (operation : String) (table : Option String) (session : Session α) : Session α := do
  try withStore session
  catch halt =>
    if let .fault fault := halt then record (.operationFailed operation table fault)
    throw halt

/-- Ends the connection. Only the first end reaches the store. -/
def close : Session Unit := do
  if (← get).isClosed then return
  modify fun world => { world with isClosed := true }
  if (← get).isPoisoned then fail .connectionPoisoned
  try discard (send .close)
  catch halt =>
    match halt with
    | .fault fault => record (.operationFailed "close" none fault)
    | .crash => poison
    throw halt
  record .connectionClosed

end Session

/-- The query for the row that a record stands for, by its primary key. -/
def Record.ownRow (record : Record) : Except Fault Query := do
  match record.schema.primaryKey? with
  | none => throw (.noPrimaryKey record.table)
  | some column =>
    match ← record.cell column.name with
    | .present value => return .whereEqual column.name value
    | _ => throw (.primaryKeyUnset record.table column.name)

/-! ## Operations -/

/-- What a caller may ask of a connection. -/
inductive Operation (ι : Type) where
  | insertEntity (entity : Entity ι)
  | selectEntities (type : ι) (query : Query)
  | updateEntities (entity : Entity ι) (query : Query)
  | updateEntity (entity : Entity ι)
  | removeEntities (type : ι) (query : Query)
  | removeEntity (entity : Entity ι)
  | insertRecord (record : Record)
  | selectRecords (table : String) (query : Query)
  | updateRecords (record : Record) (query : Query)
  | updateRecord (record : Record)
  | removeRecords (table : String) (query : Query)
  | removeRecord (record : Record)
  | execute (sql : String)
  | query (sql : String)
  | close

/-- What comes of an operation. -/
inductive Answer (ι : Type) where
  | done
  | entity (stored : Entity ι)
  | entities (found : List (Entity ι))
  | record (stored : Record)
  | records (found : List Record)
  | rows (found : List Row)

namespace Operation

open Session

variable {ι : Type}

/-- The schema of an entity type, which has to be registered as it is declared. -/
def requireType (family : ι → EntityDecl ι) (type : ι) : Session Schema := do
  lift ((← read).catalogue.requireLayout (family type).schema)

/-- The schema of a record, which has to be the registered one. -/
def requireRecord (record : Record) : Session Schema := do
  lift ((← read).catalogue.requireLayout record.schema)

/-- The schema of a table, which has to be registered. -/
def requireTable (table : String) : Session Schema := do
  lift ((← read).catalogue.requireTable table)

/-- The record of an entity whose type is registered as it is declared. -/
def stage (family : ι → EntityDecl ι) (entity : Entity ι) : Session Record := do
  discard (requireType family entity.type)
  lift (entity.toRecord family)

/-- What comes of an operation, with the entity types of a family. -/
def run (family : ι → EntityDecl ι) : Operation ι → Session (Answer ι)
  | .insertEntity entity =>
    guarded "insert" (family entity.type).table do
      let stored ← insert (← stage family entity)
      return .entity (← lift (Entity.ofRecord family stored entity.type))
  | .selectEntities type request =>
    guarded "select" (family type).table do
      let records ← select (← requireType family type) request
      return .entities (← records.mapM fun record => lift (Entity.ofRecord family record type))
  | .updateEntities entity request =>
    guarded "update" (family entity.type).table do
      update (← stage family entity) request
      return .done
  | .updateEntity entity =>
    guarded "update" (family entity.type).table do
      let record ← stage family entity
      update record (← lift record.ownRow)
      return .done
  | .removeEntities type request =>
    guarded "remove" (family type).table do
      delete (← requireType family type) request
      return .done
  | .removeEntity entity =>
    guarded "remove" (family entity.type).table do
      let record ← stage family entity
      delete record.schema (← lift record.ownRow)
      return .done
  | .insertRecord record =>
    guarded "insert" record.table do
      discard (requireRecord record)
      return .record (← insert record)
  | .selectRecords table request =>
    guarded "select" table do
      return .records (← select (← requireTable table) request)
  | .updateRecords record request =>
    guarded "update" record.table do
      discard (requireRecord record)
      update record request
      return .done
  | .updateRecord record =>
    guarded "update" record.table do
      discard (requireRecord record)
      update record (← lift record.ownRow)
      return .done
  | .removeRecords table request =>
    guarded "remove" table do
      delete (← requireTable table) request
      return .done
  | .removeRecord record =>
    guarded "remove" record.table do
      let schema ← requireRecord record
      delete schema (← lift record.ownRow)
      return .done
  | .execute sql =>
    guarded "execute" none do
      Session.execute none sql
      return .done
  | .query sql =>
    guarded "query" none do
      return .rows (← Session.query none sql)
  | .close => do
    Session.close
    return .done

end Operation

end RecordMapper
