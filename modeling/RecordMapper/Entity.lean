import RecordMapper.Record

/-!
# Entities

* `EntityDecl`: a declared type of entities, which is stored in a table.
* `Entity`: a value of such a type. Its cells have the types that its columns ask for, but its texts
  may be of any length.
* `Entity.toRecord`, `Entity.ofRecord`: the record of an entity, and the entity of a record.
-/

namespace RecordMapper

/-! ## Declarations -/

/-- A declared type of entities. Types are told apart by `ι`, and each relation names the type of
its peers. -/
structure EntityDecl (ι : Type) where
  name : String
  table : String
  columns : List Column
  relations : List (Relation × ι)

def EntityDecl.schema {ι : Type} (decl : EntityDecl ι) : Schema where
  table := decl.table
  columns := decl.columns
  relations := decl.relations.map Prod.fst

/-! ## Fields -/

/-- A column of an entity. -/
structure TypedField where
  column : Column
  cell : Cell column.kind.valueType.Carrier
deriving DecidableEq

namespace TypedField

def empty (column : Column) : TypedField where
  column
  cell := .undefined

/-- The cell of a field, without its type. -/
def untyped (field : TypedField) : Cell Value :=
  field.cell.map (Value.ofCarrier _)

/-- The content of a cell as a value of the given type. -/
def carrierOf (type : ValueType) (value : Value) : Except Fault type.Carrier :=
  match value.carrier? type with
  | some content => .ok content
  | none => .error (.carrierType type value.type)

/-- The cell of the given type. -/
def typed (type : ValueType) (cell : Cell Value) : Except Fault (Cell type.Carrier) :=
  cell.mapM (carrierOf type)

/-- The field of a column that a cell without a type fits. -/
def ofCell (column : Column) (cell : Cell Value) : Except Fault TypedField := do
  return { column, cell := ← typed column.kind.valueType cell }

/-- The field of a record, if the column admits the text in it. -/
def toField (field : TypedField) : Except Fault (Column × Cell Value) := do
  return (field.column, ← field.column.checkCell field.untyped)

end TypedField

/-! ## Entities -/

/-- A value of a declared type. -/
structure Entity (ι : Type) where
  type : ι
  fields : List TypedField
  links : List (Relation × Cell (Entity ι))
  key : Cell String

namespace Entity

variable {ι : Type}

/-- The entity of a type in which nothing is set. -/
def empty (family : ι → EntityDecl ι) (type : ι) : Entity ι where
  type
  fields := (family type).columns.map TypedField.empty
  links := (family type).relations.map fun relation => (relation.1, .undefined)
  key := .undefined

/-! ## Records of entities -/

mutual

/-- The record of an entity. Its texts and those of its peers have to be within their bounds. -/
def toRecord (family : ι → EntityDecl ι) : Entity ι → Except Fault Record
  | ⟨type, fields, links, key⟩ => do
    let fields ← fields.mapM TypedField.toField
    let links ← linksToRecords family links
    return { table := (family type).table, fields, links, key }

def linksToRecords (family : ι → EntityDecl ι) :
    List (Relation × Cell (Entity ι)) → Except Fault (List (Relation × Cell Record))
  | [] => .ok []
  | link :: rest => do
    let first ← linkToRecord family link
    return first :: (← linksToRecords family rest)

def linkToRecord (family : ι → EntityDecl ι) :
    Relation × Cell (Entity ι) → Except Fault (Relation × Cell Record)
  | (relation, peer) => do
    return (relation, ← relation.checkPeer (← peerToRecord family peer))

def peerToRecord (family : ι → EntityDecl ι) : Cell (Entity ι) → Except Fault (Cell Record)
  | .undefined => .ok .undefined
  | .null => .ok .null
  | .present peer => .present <$> toRecord family peer

end

/-! ## Entities of records -/

/-- How a record is read as an entity of the type that is asked for. -/
abbrev Reader (ι : Type) := ι → Except Fault (Entity ι)

/-- Reads the cells of a record that a type declares, by their names, with the readers of the peers
of the record. -/
def ofParts (family : ι → EntityDecl ι) (record : Record)
    (readers : List (Relation × Cell (Reader ι))) : Reader ι := fun type => do
  let decl := family type
  unless record.table = decl.table do
    throw (.recordTable decl.table record.table)
  let fields ← decl.columns.mapM fun column => do
    TypedField.ofCell column (← record.cell column.name)
  let links ← decl.relations.mapM fun (relation, peerType) => do
    match readers.find? (·.1.key == relation.key) with
    | some reader => return (relation, ← reader.2.mapM (· peerType))
    | none => throw (.unknownRelation record.table relation.key)
  return { type, fields, links, key := record.key }

mutual

def ofRecord (family : ι → EntityDecl ι) : Record → Reader ι
  | ⟨table, fields, links, key⟩ =>
    ofParts family ⟨table, fields, links, key⟩ (linkReaders family links)

def linkReaders (family : ι → EntityDecl ι) :
    List (Relation × Cell Record) → List (Relation × Cell (Reader ι))
  | [] => []
  | link :: rest => linkReader family link :: linkReaders family rest

def linkReader (family : ι → EntityDecl ι) : Relation × Cell Record → Relation × Cell (Reader ι)
  | (relation, peer) => (relation, peerReader family peer)

def peerReader (family : ι → EntityDecl ι) : Cell Record → Cell (Reader ι)
  | .undefined => .undefined
  | .null => .null
  | .present peer => .present (ofRecord family peer)

end

theorem peerReader_eq_map (family : ι → EntityDecl ι) (peer : Cell Record) :
    peerReader family peer = peer.map (ofRecord family) := by
  cases peer <;> simp [peerReader, Cell.map]

theorem linkReaders_eq_map (family : ι → EntityDecl ι) (links : List (Relation × Cell Record)) :
    linkReaders family links = links.map fun link => (link.1, link.2.map (ofRecord family)) := by
  induction links with
  | nil => simp [linkReaders]
  | cons link rest ih =>
    obtain ⟨relation, peer⟩ := link
    simp [linkReaders, linkReader, peerReader_eq_map, ih]

/-- An entity is read from the cells of a record and, in the same way, from the cells of its
peers. -/
theorem ofRecord_eq (family : ι → EntityDecl ι) (record : Record) :
    ofRecord family record =
      ofParts family record
        (record.links.map fun link => (link.1, link.2.map (ofRecord family))) := by
  cases record
  rw [ofRecord, linkReaders_eq_map]

/-! ## Equality -/

mutual

/-- Whether two entities are equal in every cell, peers included. -/
def same [DecidableEq ι] : Entity ι → Entity ι → Bool
  | ⟨type, fields, links, key⟩, ⟨type', fields', links', key'⟩ =>
    type == type' && fields == fields' && sameLinks links links' && key == key'

def sameLinks [DecidableEq ι] :
    List (Relation × Cell (Entity ι)) → List (Relation × Cell (Entity ι)) → Bool
  | [], [] => true
  | link :: rest, link' :: rest' => sameLink link link' && sameLinks rest rest'
  | _, _ => false

def sameLink [DecidableEq ι] : Relation × Cell (Entity ι) → Relation × Cell (Entity ι) → Bool
  | (relation, peer), (relation', peer') => relation == relation' && samePeer peer peer'

def samePeer [DecidableEq ι] : Cell (Entity ι) → Cell (Entity ι) → Bool
  | .undefined, .undefined => true
  | .null, .null => true
  | .present peer, .present peer' => same peer peer'
  | _, _ => false

end

mutual

theorem same_iff [DecidableEq ι] :
    ∀ (entity entity' : Entity ι), same entity entity' = true ↔ entity = entity'
  | ⟨type, fields, links, key⟩, ⟨type', fields', links', key'⟩ => by
    simp [same, sameLinks_iff links links', and_assoc]

theorem sameLinks_iff [DecidableEq ι] : ∀ (links links' : List (Relation × Cell (Entity ι))),
    sameLinks links links' = true ↔ links = links'
  | [], [] => by simp [sameLinks]
  | link :: rest, link' :: rest' => by
    simp [sameLinks, sameLink_iff link link', sameLinks_iff rest rest']
  | [], _ :: _ => by simp [sameLinks]
  | _ :: _, [] => by simp [sameLinks]

theorem sameLink_iff [DecidableEq ι] : ∀ (link link' : Relation × Cell (Entity ι)),
    sameLink link link' = true ↔ link = link'
  | (relation, peer), (relation', peer') => by simp [sameLink, samePeer_iff peer peer']

theorem samePeer_iff [DecidableEq ι] :
    ∀ (peer peer' : Cell (Entity ι)), samePeer peer peer' = true ↔ peer = peer'
  | .undefined, .undefined => by simp [samePeer]
  | .null, .null => by simp [samePeer]
  | .present peer, .present peer' => by simp [samePeer, same_iff peer peer']
  | .undefined, .null => by simp [samePeer]
  | .undefined, .present _ => by simp [samePeer]
  | .null, .undefined => by simp [samePeer]
  | .null, .present _ => by simp [samePeer]
  | .present _, .undefined => by simp [samePeer]
  | .present _, .null => by simp [samePeer]

end

instance [DecidableEq ι] : DecidableEq (Entity ι) := fun entity entity' =>
  decidable_of_iff _ (same_iff entity entity')

end Entity

end RecordMapper
