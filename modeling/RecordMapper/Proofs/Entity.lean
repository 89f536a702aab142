import RecordMapper.Entity
import RecordMapper.Proofs.Faults
import RecordMapper.Proofs.Record

/-!
# Entities of records

* `Cell.Rel`: cells in the same state.
* `Entity.toRecord_eq_ok`, `Entity.ofRecord_eq_ok`: what record an entity has, and when a record is
  read as an entity.
* `Schema.Covers`: a layout that has whatever an entity type declares.
* `Entity.covers_of_ofRecord`, `Entity.fails_ofRecord_of_covers`: a record is read only if its
  layout covers the type; if it does, and so do the layouts of the peers, nothing but the types of
  values can be wrong.
-/

namespace RecordMapper

variable {ι : Type}

/-- A layout has the columns and relations that an entity type declares, whatever else it has. -/
structure Schema.Covers (schema : Schema) (decl : EntityDecl ι) : Prop where
  table : schema.table = decl.table
  columns : ∀ column ∈ decl.columns, ∃ other ∈ schema.columns, other.name = column.name
  relations : ∀ relation ∈ decl.relations, ∃ other ∈ schema.relations, other.key = relation.1.key

theorem EntityDecl.covers_schema (decl : EntityDecl ι) : decl.schema.Covers decl where
  table := rfl
  columns column hcolumn := ⟨column, hcolumn, rfl⟩
  relations relation hrelation := ⟨relation.1, List.mem_map_of_mem hrelation, rfl⟩

/-! ## Cells beside each other -/

/-- Cells in the same state, with related contents. -/
inductive Cell.Rel {α β : Type} (R : α → β → Prop) : Cell α → Cell β → Prop
  | undefined : Rel R .undefined .undefined
  | null : Rel R .null .null
  | present {a : α} {b : β} : R a b → Rel R (.present a) (.present b)

namespace Cell

variable {α β : Type} {cell : Cell α} {cell' : Cell β}

theorem mapM_eq_ok {f : α → Except Fault β} :
    cell.mapM f = .ok cell' ↔ Rel (fun a b => f a = .ok b) cell cell' := by
  cases cell with
  | undefined =>
    constructor
    · intro h
      cases h
      exact .undefined
    · rintro ⟨⟩
      rfl
  | null =>
    constructor
    · intro h
      cases h
      exact .null
    · rintro ⟨⟩
      rfl
  | present a =>
    rw [mapM, map_eq_ok]
    constructor
    · rintro ⟨b, h, rfl⟩
      exact .present h
    · intro h
      cases h with
      | present h => exact ⟨_, h, rfl⟩

theorem Rel.mono {R S : α → β → Prop} (h : Rel R cell cell')
    (hRS : ∀ a b, cell = .present a → cell' = .present b → R a b → S a b) : Rel S cell cell' := by
  cases h with
  | undefined => exact .undefined
  | null => exact .null
  | present h => exact .present (hRS _ _ rfl rfl h)

theorem Rel.flip {R : α → β → Prop} (h : Rel R cell cell') : Rel (fun b a => R a b) cell' cell := by
  cases h with
  | undefined => exact .undefined
  | null => exact .null
  | present h => exact .present h

theorem Rel.exists_of_present {R : α → β → Prop} (h : Rel R cell cell') {a : α}
    (hcell : cell = .present a) : ∃ b, cell' = .present b ∧ R a b := by
  subst hcell
  cases h with
  | present h => exact ⟨_, rfl, h⟩

theorem exists_rel {R : α → β → Prop} (h : ∀ a, cell = .present a → ∃ b, R a b) :
    ∃ cell', Rel R cell cell' := by
  cases cell with
  | undefined => exact ⟨_, .undefined⟩
  | null => exact ⟨_, .null⟩
  | present a =>
    obtain ⟨b, hb⟩ := h a rfl
    exact ⟨_, .present hb⟩

end Cell

/-! ## Cells of a record -/

namespace Record

variable {record : Record}

theorem cell_eq_ok {name : String} {cell : Cell Value} (h : record.cell name = .ok cell) :
    ∃ field ∈ record.fields, field.1.name = name ∧ field.2 = cell := by
  rw [Record.cell] at h
  split at h
  · next field hfound =>
    have hname := List.find?_some hfound
    exact ⟨field, List.mem_of_find?_eq_some hfound, beq_iff_eq.mp hname, Except.ok.inj h⟩
  · cases h

theorem exists_cell {name : String} (h : ∃ column ∈ record.schema.columns, column.name = name) :
    ∃ cell, record.cell name = .ok cell := by
  obtain ⟨_, hcolumn, hname⟩ := h
  obtain ⟨field, hfield, rfl⟩ := List.mem_map.mp hcolumn
  rw [Record.cell]
  split
  · exact ⟨_, rfl⟩
  · next hnone => exact absurd (beq_iff_eq.mpr hname) (List.find?_eq_none.mp hnone field hfield)

theorem exists_link {key : String} (h : ∃ relation ∈ record.schema.relations, relation.key = key) :
    ∃ link, record.links.find? (·.1.key == key) = some link := by
  obtain ⟨_, hrelation, hkey⟩ := h
  obtain ⟨link, hlink, rfl⟩ := List.mem_map.mp hrelation
  rw [← Option.isSome_iff_exists, List.find?_isSome]
  exact ⟨link, hlink, beq_iff_eq.mpr hkey⟩

/-- Nothing but null is set in a column. -/
def Blank (record : Record) : Prop :=
  ∀ field ∈ record.fields, ∀ value, field.2 ≠ .present value

end Record

/-! ## Fields -/

namespace TypedField

/-- The text of a field, if there is one, is within the bound of its column. -/
def Within (field : TypedField) : Prop :=
  ∀ maxLength content, field.column.kind = .varchar maxLength →
    field.untyped = .present (.text content) → content.length ≤ maxLength.toNat

theorem fits_iff_within {field : TypedField} :
    FieldFits (field.column, field.untyped) ↔ field.Within := by
  constructor
  · intro h maxLength content hkind hcontent
    exact of_decide_eq_true ((h _ hcontent).length maxLength content hkind rfl)
  · intro h value hvalue
    refine ⟨?_, ?_⟩
    · -- a typed cell holds nothing of another type
      obtain ⟨column, cell⟩ := field
      cases cell with
      | undefined | null => cases hvalue
      | present x =>
        cases hvalue
        exact beq_iff_eq.mpr (Value.type_ofCarrier _ x)
    · rintro maxLength content hkind rfl
      exact decide_eq_true (h maxLength content hkind hvalue)

theorem toField_eq_ok {field : TypedField} {made : Column × Cell Value} :
    field.toField = .ok made ↔ field.Within ∧ (field.column, field.untyped) = made := by
  rw [toField, bind_eq_ok, ← fits_iff_within]
  constructor
  · rintro ⟨cell, hcell, h⟩
    obtain ⟨hfits, rfl⟩ := Column.checkCell_eq_ok.mp hcell
    exact ⟨hfits, Except.ok.inj h⟩
  · rintro ⟨hfits, rfl⟩
    exact ⟨_, Column.checkCell_eq_ok.mpr ⟨hfits, rfl⟩, rfl⟩

theorem fails_ofCell (column : Column) (cell : Cell Value) :
    Fails (ofCell column cell) (·.kind = .runtime) := by
  refine fails_bind ?_ fun _ => fails_ok
  cases cell with
  | undefined | null => exact fails_ok
  | present value =>
    refine fails_map ?_
    rw [carrierOf]
    split
    · exact fails_ok
    · exact fails_error rfl

theorem exists_ofCell (column : Column) {cell : Cell Value} (h : ∀ value, cell ≠ .present value) :
    ∃ field, ofCell column cell = .ok field := by
  cases cell with
  | undefined | null => exact ⟨_, rfl⟩
  | present value => exact absurd rfl (h value)

end TypedField

/-! ## Records of entities -/

/-- An entity has the columns and relations that its type declares. -/
structure Entity.Declared (family : ι → EntityDecl ι) (entity : Entity ι) : Prop where
  columns : entity.fields.map (·.column) = (family entity.type).columns
  relations : entity.links.map Prod.fst = (family entity.type).relations.map Prod.fst

namespace Entity

variable {family : ι → EntityDecl ι}

theorem peerToRecord_eq_mapM (family : ι → EntityDecl ι) (cell : Cell (Entity ι)) :
    peerToRecord family cell = cell.mapM (toRecord family) := by
  cases cell <;> simp [peerToRecord, Cell.mapM]

theorem linksToRecords_eq_mapM (family : ι → EntityDecl ι)
    (links : List (Relation × Cell (Entity ι))) :
    linksToRecords family links = links.mapM (linkToRecord family) := by
  induction links with
  | nil => rfl
  | cons link rest ih => rw [linksToRecords, List.mapM_cons, ih]

theorem linkToRecord_eq_ok {link : Relation × Cell (Entity ι)} {made : Relation × Cell Record} :
    linkToRecord family link = .ok made ↔ made.1 = link.1 ∧
      Cell.Rel (fun peer record => peer.toRecord family = .ok record ∧
        record.table = link.1.targetTable) link.2 made.2 := by
  obtain ⟨relation, cell⟩ := link
  obtain ⟨relation', cell'⟩ := made
  rw [linkToRecord, bind_eq_ok]
  constructor
  · rintro ⟨peer, hpeer, h⟩
    obtain ⟨checked, hchecked, h⟩ := bind_eq_ok.mp h
    obtain ⟨htable, rfl⟩ := Relation.checkPeer_eq_ok.mp hchecked
    cases h
    rw [peerToRecord_eq_mapM, Cell.mapM_eq_ok] at hpeer
    exact ⟨rfl, hpeer.mono fun _ record _ hrecord hmade => ⟨hmade, htable record hrecord⟩⟩
  · rintro ⟨rfl, hrel⟩
    have hpeer : peerToRecord family cell = .ok cell' := by
      rw [peerToRecord_eq_mapM, Cell.mapM_eq_ok]
      exact hrel.mono fun _ _ _ _ h => h.1
    have htable : ∀ peer, cell' = .present peer → peer.table = relation'.targetTable := by
      rintro peer rfl
      cases hrel with
      | present h => exact h.2
    exact ⟨cell', hpeer, bind_eq_ok.mpr ⟨cell', Relation.checkPeer_eq_ok.mpr ⟨htable, rfl⟩, rfl⟩⟩

theorem toRecord_eq_ok {entity : Entity ι} {record : Record} :
    entity.toRecord family = .ok record ↔ (∀ field ∈ entity.fields, field.Within) ∧
      List.Forall₂ (fun link made => linkToRecord family link = .ok made) entity.links
        record.links ∧
      record.table = (family entity.type).table ∧
      record.fields = entity.fields.map (fun field => (field.column, field.untyped)) ∧
      record.key = entity.key := by
  obtain ⟨type, fields, links, key⟩ := entity
  rw [toRecord, bind_eq_ok]
  constructor
  · rintro ⟨made, hmade, h⟩
    obtain ⟨madeLinks, hlinks, h⟩ := bind_eq_ok.mp h
    obtain ⟨hwithin, rfl⟩ := (mapM_eq_ok_of_spec fun _ _ => TypedField.toField_eq_ok).mp hmade
    rw [linksToRecords_eq_mapM, mapM_eq_ok] at hlinks
    cases h
    exact ⟨hwithin, hlinks, rfl, rfl, rfl⟩
  · rintro ⟨hwithin, hlinks, htable, hfields, hkey⟩
    refine ⟨_, (mapM_eq_ok_of_spec fun _ _ => TypedField.toField_eq_ok).mpr ⟨hwithin, rfl⟩, ?_⟩
    rw [← mapM_eq_ok, ← linksToRecords_eq_mapM] at hlinks
    refine bind_eq_ok.mpr ⟨_, hlinks, ?_⟩
    obtain ⟨table, madeFields, madeLinks, madeKey⟩ := record
    cases htable
    cases hfields
    cases hkey
    rfl

/-- The record of an entity has the layout that the type declares, and peers of the right tables. -/
theorem Declared.schema_toRecord {entity : Entity ι} (hdeclared : entity.Declared family)
    {record : Record} (h : entity.toRecord family = .ok record) :
    record.schema = (family entity.type).schema ∧ record.Linked := by
  obtain ⟨-, hlinks, htable, hfields, -⟩ := toRecord_eq_ok.mp h
  constructor
  · have hcolumns : record.fields.map Prod.fst = entity.fields.map (·.column) := by
      rw [hfields, List.map_map]
      rfl
    have hkeys : record.links.map Prod.fst = entity.links.map Prod.fst :=
      forall₂_eq_iff_map_eq.mp (hlinks.flip.imp fun _ _ hlink => (linkToRecord_eq_ok.mp hlink).1)
    rw [Record.schema, EntityDecl.schema, hcolumns, hkeys, htable, hdeclared.columns,
      hdeclared.relations]
  · intro link hlink peer hpeer
    obtain ⟨_, -, hmade⟩ := exists_of_mem_right hlinks hlink
    obtain ⟨hkey, hrel⟩ := linkToRecord_eq_ok.mp hmade
    obtain ⟨_, -, -, htable⟩ := hrel.flip.exists_of_present hpeer
    rw [htable, hkey]

end Entity

/-! ## Reading records -/

namespace Entity

variable {family : ι → EntityDecl ι} {type : ι} {record : Record} {entity : Entity ι}

/-- Reads a column of a record. -/
def readField (record : Record) (column : Column) : Except Fault TypedField := do
  TypedField.ofCell column (← record.cell column.name)

/-- Reads a relation of a record. -/
def readLink (family : ι → EntityDecl ι) (record : Record) (relation : Relation × ι) :
    Except Fault (Relation × Cell (Entity ι)) :=
  match record.links.find? (·.1.key == relation.1.key) with
  | some link => do
    return (relation.1, ← link.2.mapM fun peer => ofRecord family peer relation.2)
  | none => throw (.unknownRelation record.table relation.1.key)

/-- The reader of a relation reads its peer, if there is one. -/
theorem readLink_eq (family : ι → EntityDecl ι) (record : Record) (relation : Relation × ι) :
    readLink family record relation =
      match (record.links.map fun link => (link.1, link.2.map (ofRecord family))).find?
          (·.1.key == relation.1.key) with
        | some reader => do return (relation.1, ← reader.2.mapM (· relation.2))
        | none => throw (.unknownRelation record.table relation.1.key) := by
  rw [readLink, List.find?_map, Function.comp_def]
  cases record.links.find? (·.1.key == relation.1.key) with
  | none => rfl
  | some link =>
    obtain ⟨_, cell⟩ := link
    cases cell <;> rfl

theorem ofRecord_eq_reads (family : ι → EntityDecl ι) (record : Record) (type : ι) :
    ofRecord family record type = do
      unless record.table = (family type).table do
        throw (.recordTable (family type).table record.table)
      let fields ← (family type).columns.mapM (readField record)
      let links ← (family type).relations.mapM (readLink family record)
      return { type, fields, links, key := record.key } := by
  rw [ofRecord_eq, funext (readLink_eq family record)]
  rfl

theorem ofRecord_eq_ok :
    ofRecord family record type = .ok entity ↔
      record.table = (family type).table ∧
      (family type).columns.mapM (readField record) = .ok entity.fields ∧
      (family type).relations.mapM (readLink family record) = .ok entity.links ∧
      entity.type = type ∧ entity.key = record.key := by
  rw [ofRecord_eq_reads]
  by_cases htable : record.table = (family type).table
  · rw [if_pos htable]
    constructor
    · intro h
      obtain ⟨fields, hfields, h⟩ := bind_eq_ok.mp h
      obtain ⟨links, hlinks, h⟩ := bind_eq_ok.mp h
      cases h
      exact ⟨htable, hfields, hlinks, rfl, rfl⟩
    · rintro ⟨-, hfields, hlinks, rfl, hkey⟩
      refine bind_eq_ok.mpr ⟨_, hfields, bind_eq_ok.mpr ⟨_, hlinks, ?_⟩⟩
      rw [← hkey]
      cases entity
      rfl
  · rw [if_neg htable]
    exact ⟨nofun, fun h => absurd h.1 htable⟩

theorem readLink_of_find? {relation : Relation × ι} {link : Relation × Cell Record}
    (h : record.links.find? (·.1.key == relation.1.key) = some link) :
    readLink family record relation =
      (relation.1, ·) <$> link.2.mapM fun peer => ofRecord family peer relation.2 := by
  rw [readLink, h, map_eq_pure_bind]

/-- A record that is read as an entity has a layout that covers the type. -/
theorem covers_of_ofRecord (h : ofRecord family record type = .ok entity) :
    record.schema.Covers (family type) := by
  obtain ⟨htable, hfields, hlinks, -, -⟩ := ofRecord_eq_ok.mp h
  refine ⟨htable, fun column hcolumn => ?_, fun relation hrelation => ?_⟩
  · obtain ⟨field, hfield⟩ := exists_of_mem_left (mapM_eq_ok.mp hfields) hcolumn
    obtain ⟨cell, hcell, -⟩ := bind_eq_ok.mp hfield.2
    obtain ⟨found, hfound, hname, -⟩ := Record.cell_eq_ok hcell
    exact ⟨found.1, List.mem_map_of_mem hfound, hname⟩
  · obtain ⟨link, hlink⟩ := exists_of_mem_left (mapM_eq_ok.mp hlinks) hrelation
    rw [readLink] at hlink
    split at hlink
    · next found hfound =>
      have hkey := List.find?_some hfound
      exact ⟨found.1, List.mem_map_of_mem (List.mem_of_find?_eq_some hfound), beq_iff_eq.mp hkey⟩
    · cases hlink.2

/-- The peers of a record that is read as an entity are read too. -/
theorem exists_peer_of_ofRecord (h : ofRecord family record type = .ok entity)
    {relation : Relation × ι} (hrelation : relation ∈ (family type).relations)
    {link : Relation × Cell Record}
    (hlink : record.links.find? (·.1.key == relation.1.key) = some link) {peer : Record}
    (hpeer : link.2 = .present peer) :
    ∃ entity', ofRecord family peer relation.2 = .ok entity' := by
  obtain ⟨-, -, hlinks, -, -⟩ := ofRecord_eq_ok.mp h
  obtain ⟨read, -, hread⟩ := exists_of_mem_left (mapM_eq_ok.mp hlinks) hrelation
  rw [readLink_of_find? hlink, hpeer] at hread
  obtain ⟨cell, hcell, -⟩ := map_eq_ok.mp hread
  obtain ⟨entity', hentity, -⟩ := map_eq_ok.mp hcell
  exact ⟨entity', hentity⟩

/-! ## Faults -/

theorem fails_ofRecord {P : Fault → Prop} (htable : record.table = (family type).table)
    (hfields : ∀ column ∈ (family type).columns, Fails (readField record column) P)
    (hlinks : ∀ relation ∈ (family type).relations, Fails (readLink family record relation) P) :
    Fails (ofRecord family record type) P := by
  rw [ofRecord_eq_reads, if_pos htable]
  exact fails_bind (fails_mapM hfields) fun _ => fails_bind (fails_mapM hlinks) fun _ => fails_ok

theorem fails_readLink {P : Fault → Prop} {relation : Relation × ι} {link : Relation × Cell Record}
    (hlink : record.links.find? (·.1.key == relation.1.key) = some link)
    (hpeer : ∀ peer, link.2 = .present peer → Fails (ofRecord family peer relation.2) P) :
    Fails (readLink family record relation) P := by
  rw [readLink_of_find? hlink]
  apply fails_map
  cases hcell : link.2 with
  | undefined | null => exact fails_ok
  | present peer => exact fails_map (hpeer peer hcell)

/-- Where the layout of a record covers a type, and so do the layouts of its peers, only the types
of values can be wrong. -/
theorem fails_ofRecord_of_covers (hcovers : record.schema.Covers (family type))
    (hpeers : ∀ relation ∈ (family type).relations, ∀ link,
      record.links.find? (·.1.key == relation.1.key) = some link →
        ∀ peer, link.2 = .present peer →
          Fails (ofRecord family peer relation.2) (·.kind = .runtime)) :
    Fails (ofRecord family record type) (·.kind = .runtime) := by
  refine fails_ofRecord hcovers.table (fun column hcolumn => ?_) fun relation hrelation => ?_
  · obtain ⟨cell, hcell⟩ := Record.exists_cell (hcovers.columns column hcolumn)
    rw [readField, hcell]
    exact TypedField.fails_ofCell column cell
  · obtain ⟨link, hlink⟩ := Record.exists_link (hcovers.relations relation hrelation)
    exact fails_readLink hlink (hpeers relation hrelation link hlink)

/-- Where nothing is set, no value is of a wrong type, so only names can be wrong. -/
theorem fails_ofRecord_of_blank (hblank : record.Blank)
    (hpeers : ∀ link ∈ record.links, ∀ peer, link.2 = .present peer → ∀ type,
      Fails (ofRecord family peer type) Registry.IsInvalidArgument) :
    Fails (ofRecord family record type) Registry.IsInvalidArgument := by
  by_cases htable : record.table = (family type).table
  · refine fails_ofRecord htable (fun column _ => ?_) fun relation _ => ?_
    · intro fault hfault
      cases hcell : record.cell column.name with
      | error found =>
        rw [readField, hcell] at hfault
        cases hfault
        exact record.fails_cell column.name _ hcell
      | ok cell =>
        obtain ⟨field, hfield, -, rfl⟩ := Record.cell_eq_ok hcell
        obtain ⟨typed, htyped⟩ := TypedField.exists_ofCell column (hblank field hfield)
        rw [readField, hcell] at hfault
        cases htyped.symm.trans hfault
    · cases hlink : record.links.find? (·.1.key == relation.1.key) with
      | none =>
        rw [readLink, hlink]
        exact fails_error rfl
      | some link =>
        refine fails_readLink hlink fun peer hpeer => ?_
        exact hpeers link (List.mem_of_find?_eq_some hlink) peer hpeer relation.2
  · rw [ofRecord_eq_reads, if_neg htable]
    exact fails_error rfl

end Entity

end RecordMapper
