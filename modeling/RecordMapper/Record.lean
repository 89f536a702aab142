import RecordMapper.InstanceKey
import RecordMapper.Schema.Lookup

/-!
# Records

* `Record`: a row of a table as a caller sees it: a cell for each column, a cell for each relation,
  and a cell for the instance key.
* `Record.set`, `Record.read`, `Record.link`, `Record.setKey`: the changes of one cell. Each checks
  what it puts there, and gives no record when the check fails.
-/

namespace RecordMapper

/-- A row of a table. The schema of a record is part of it: each cell stands beside the column or
the relation that it belongs to. -/
structure Record where
  table : String
  fields : List (Column × Cell Value)
  links : List (Relation × Cell Record)
  key : Cell String

/-- A cell whose peer, if it has one, is of the table that the relation leads to. -/
def Relation.checkPeer (relation : Relation) (peer : Cell Record) : Except Fault (Cell Record) :=
  peer.mapM fun peer =>
    if peer.table = relation.targetTable then .ok peer
    else .error (.peerTable relation.key relation.targetTable peer.table)

namespace Record

/-- The record of a schema in which nothing is set. -/
def empty (schema : Schema) : Record where
  table := schema.table
  fields := schema.columns.map (·, .undefined)
  links := schema.relations.map (·, .undefined)
  key := .undefined

/-- The layout of the table that the record belongs to. -/
def schema (record : Record) : Schema where
  table := record.table
  columns := record.fields.map Prod.fst
  relations := record.links.map Prod.fst

@[simp] theorem schema_empty (schema : Schema) : (empty schema).schema = schema := by
  simp [empty, Record.schema, Function.comp_def]

/-! ## Columns -/

/-- Changes what belongs to the first owner that is looked for. -/
def replaceFirst {α β : Type} (isOwner : α → Bool) (content : β) : List (α × β) → List (α × β)
  | [] => []
  | (owner, old) :: rest =>
    if isOwner owner then (owner, content) :: rest
    else (owner, old) :: replaceFirst isOwner content rest

@[simp] theorem map_fst_replaceFirst {α β : Type} (isOwner : α → Bool) (content : β)
    (entries : List (α × β)) :
    (replaceFirst isOwner content entries).map Prod.fst = entries.map Prod.fst := by
  induction entries with
  | nil => rfl
  | cons entry rest ih =>
    unfold replaceFirst
    split <;> simp [ih]

/-- The cell of the first column of a name. -/
def cell (record : Record) (name : String) : Except Fault (Cell Value) :=
  match record.fields.find? (·.1.name == name) with
  | some field => .ok field.2
  | none => .error (.unknownColumn record.table name)

/-- The value of a column, if it is not null. The column must be set. -/
def get (record : Record) (name : String) : Except Fault (Option Value) := do
  match ← record.cell name with
  | .undefined => throw (.columnUndefined name)
  | .null => return none
  | .present value => return some value

/-- Puts a cell into a column, whatever it holds. -/
def putCell (record : Record) (name : String) (cell : Cell Value) : Record :=
  { record with fields := replaceFirst (·.name == name) cell record.fields }

def set (record : Record) (name : String) (cell : Cell Value) : Except Fault Record := do
  let column ← record.schema.requireColumn name
  return record.putCell name (← column.checkCell cell)

/-- Sets a column by the text that the store has for it. -/
def read (record : Record) (name : String) (text : Option String) : Except Fault Record := do
  let column ← record.schema.requireColumn name
  return record.putCell name (← column.read text)

/-! ## Relations -/

/-- The cell of the first relation of a key. -/
def peer (record : Record) (key : String) : Except Fault (Cell Record) :=
  match record.links.find? (·.1.key == key) with
  | some link => .ok link.2
  | none => .error (.unknownRelation record.table key)

def putPeer (record : Record) (key : String) (peer : Cell Record) : Record :=
  { record with links := replaceFirst (·.key == key) peer record.links }

def link (record : Record) (key : String) (peer : Cell Record) : Except Fault Record := do
  let relation ← record.schema.requireRelation key
  return record.putPeer key (← relation.checkPeer peer)

/-! ## Instance keys -/

def withKey (record : Record) (key : Cell String) : Record :=
  { record with key := key }

/-- Sets the instance key to a text that has the form of one. -/
def setKey (record : Record) (key : String) : Except Fault Record :=
  if InstanceKey.isWellFormed key then .ok (record.withKey (.present key))
  else .error .instanceKeyForm

/-! ## Equality -/

mutual

/-- Whether two records are equal in every cell, peers included. -/
def same : Record → Record → Bool
  | ⟨table, fields, links, key⟩, ⟨table', fields', links', key'⟩ =>
    table == table' && fields == fields' && sameLinks links links' && key == key'

def sameLinks : List (Relation × Cell Record) → List (Relation × Cell Record) → Bool
  | [], [] => true
  | link :: rest, link' :: rest' => sameLink link link' && sameLinks rest rest'
  | _, _ => false

def sameLink : Relation × Cell Record → Relation × Cell Record → Bool
  | (relation, peer), (relation', peer') => relation == relation' && samePeer peer peer'

def samePeer : Cell Record → Cell Record → Bool
  | .undefined, .undefined => true
  | .null, .null => true
  | .present peer, .present peer' => same peer peer'
  | _, _ => false

end

mutual

theorem same_iff : ∀ (record record' : Record), same record record' = true ↔ record = record'
  | ⟨table, fields, links, key⟩, ⟨table', fields', links', key'⟩ => by
    simp [same, sameLinks_iff links links', and_assoc]

theorem sameLinks_iff : ∀ (links links' : List (Relation × Cell Record)),
    sameLinks links links' = true ↔ links = links'
  | [], [] => by simp [sameLinks]
  | link :: rest, link' :: rest' => by
    simp [sameLinks, sameLink_iff link link', sameLinks_iff rest rest']
  | [], _ :: _ => by simp [sameLinks]
  | _ :: _, [] => by simp [sameLinks]

theorem sameLink_iff : ∀ (link link' : Relation × Cell Record),
    sameLink link link' = true ↔ link = link'
  | (relation, peer), (relation', peer') => by simp [sameLink, samePeer_iff peer peer']

theorem samePeer_iff : ∀ (peer peer' : Cell Record), samePeer peer peer' = true ↔ peer = peer'
  | .undefined, .undefined => by simp [samePeer]
  | .null, .null => by simp [samePeer]
  | .present peer, .present peer' => by simp [samePeer, same_iff peer peer']
  | .undefined, .null => by simp [samePeer]
  | .undefined, .present _ => by simp [samePeer]
  | .null, .undefined => by simp [samePeer]
  | .null, .present _ => by simp [samePeer]
  | .present _, .undefined => by simp [samePeer]
  | .present _, .null => by simp [samePeer]

end

instance : DecidableEq Record := fun record record' =>
  decidable_of_iff _ (same_iff record record')

end Record

end RecordMapper
