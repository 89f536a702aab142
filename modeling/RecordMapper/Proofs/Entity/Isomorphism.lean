import RecordMapper.Proofs.Entity
import RecordMapper.Proofs.Registry

/-!
# Entities and records are the same

* `Coherent`: a family of declared types in which names are distinct and the peers of a relation
  live on the table that it leads to.
* `Entity.OfType`, `Record.OfType`: entities and records that have the layout of a type, and so have
  their peers, whatever their depth.
* `Entity.Bounded`: the texts of an entity, and those of all entities that it reaches, are within
  their bounds.
* `Entity.isomorphic_records`: exactly the bounded entities have records, and entities and records
  are read from each other without loss.
-/

namespace RecordMapper

variable {ι : Type}

/-! ## Declared types -/

/-- Declared types as the fields of a structure give them: no two columns and no two relations of a
type share a name, and the peers of a relation are of a type on the table that it leads to. -/
structure Coherent (family : ι → EntityDecl ι) : Prop where
  columns : ∀ type, ((family type).columns.map (·.name)).Nodup
  relations : ∀ type, ((family type).relations.map (·.1.key)).Nodup
  targets : ∀ type, ∀ relation ∈ (family type).relations,
    (family relation.2).table = relation.1.targetTable

/-- An entity of a type: it has the columns and relations that the type declares, and its peers are
of the types that the relations name. -/
inductive Entity.OfType (family : ι → EntityDecl ι) : ι → Entity ι → Prop
  | mk {type : ι} {fields : List TypedField} {links : List (Relation × Cell (Entity ι))}
      {key : Cell String} :
      fields.map (·.column) = (family type).columns →
        links.map Prod.fst = (family type).relations.map Prod.fst →
          (∀ pair ∈ (family type).relations.zip links, ∀ peer, pair.2.2 = .present peer →
            OfType family pair.1.2 peer) →
              OfType family type ⟨type, fields, links, key⟩

/-- A record with the layout of a type, whose peers have the layouts of the types that the relations
name. -/
inductive Record.OfType (family : ι → EntityDecl ι) : ι → Record → Prop
  | mk {type : ι} {record : Record} :
      record.schema = (family type).schema →
        (∀ pair ∈ (family type).relations.zip record.links, ∀ peer, pair.2.2 = .present peer →
          OfType family pair.1.2 peer) →
            OfType family type record

/-! ## Bounds -/

namespace Entity

/-- An entity reaches itself, its peers, and whatever they reach. -/
inductive Reaches : Entity ι → Entity ι → Prop
  | refl (entity : Entity ι) : Reaches entity entity
  | step {entity peer other : Entity ι} {relation : Relation} :
      (relation, .present peer) ∈ entity.links → Reaches peer other → Reaches entity other

/-- All texts that are reached are within their bounds. -/
def Bounded (entity : Entity ι) : Prop :=
  ∀ other, entity.Reaches other → ∀ field ∈ other.fields, field.Within

theorem bounded_iff {entity : Entity ι} :
    entity.Bounded ↔ (∀ field ∈ entity.fields, field.Within) ∧
      ∀ link ∈ entity.links, ∀ peer, link.2 = .present peer → peer.Bounded := by
  constructor
  · intro h
    refine ⟨h entity (.refl entity), ?_⟩
    rintro ⟨relation, _⟩ hlink peer rfl other hreaches
    exact h other (.step hlink hreaches)
  · rintro ⟨hfields, hpeers⟩ other hreaches
    cases hreaches with
    | refl => exact hfields
    | step hlink hreaches => exact hpeers _ hlink _ rfl other hreaches

end Entity

/-! ## Fields -/

namespace TypedField

theorem ofCell_untyped (field : TypedField) : ofCell field.column field.untyped = .ok field := by
  obtain ⟨column, cell⟩ := field
  refine bind_eq_ok.mpr ⟨cell, ?_, rfl⟩
  rw [typed, Cell.mapM_eq_ok]
  cases cell with
  | undefined => exact .undefined
  | null => exact .null
  | present x =>
    refine .present ?_
    rw [carrierOf, Value.carrier?_ofCarrier]

/-- A cell that fits its column is the cell of a field. -/
theorem exists_untyped {column : Column} {cell : Cell Value} (h : FieldFits (column, cell)) :
    ∃ field : TypedField, (field.column, field.untyped) = (column, cell) := by
  cases cell with
  | undefined => exact ⟨⟨column, .undefined⟩, rfl⟩
  | null => exact ⟨⟨column, .null⟩, rfl⟩
  | present value =>
    have htype : value.type = column.kind.valueType := beq_iff_eq.mp (h value rfl).type
    obtain ⟨x, rfl⟩ : ∃ x, value = Value.ofCarrier column.kind.valueType x := by
      rw [← htype]
      cases value <;> exact ⟨_, rfl⟩
    exact ⟨⟨column, .present x⟩, rfl⟩

end TypedField

/-! ## Lists beside each other -/

section Zip

variable {α β γ : Type} {xs : List α} {ys : List β}

theorem exists_mem_zip (h : xs.length = ys.length) {y : β} (hy : y ∈ ys) :
    ∃ x, (x, y) ∈ xs.zip ys := by
  rw [← List.map_snd_zip (by omega : ys.length ≤ xs.length)] at hy
  obtain ⟨pair, hpair, rfl⟩ := List.mem_map.mp hy
  exact ⟨pair.1, hpair⟩

theorem forall₂_of_zip {f : α → γ} {g : β → γ} (h : ys.map g = xs.map f) {R : α → β → Prop}
    (hR : ∀ pair ∈ xs.zip ys, R pair.1 pair.2) :
    List.Forall₂ (fun x y => g y = f x ∧ R x y) xs ys := by
  obtain ⟨hlength, hsame⟩ := List.forall₂_iff_zip.mp (forall₂_eq_iff_map_eq.mpr h.symm)
  exact List.forall₂_iff_zip.mpr ⟨hlength, fun hpair => ⟨(hsame hpair).symm, hR _ hpair⟩⟩

theorem eq_of_mem_zip {f : α → γ} {g : β → γ} (h : ys.map g = xs.map f) {pair : α × β}
    (hpair : pair ∈ xs.zip ys) : g pair.2 = f pair.1 :=
  ((List.forall₂_iff_zip.mp (forall₂_eq_iff_map_eq.mpr h.symm)).2 hpair).symm

end Zip

namespace Entity

variable {family : ι → EntityDecl ι} {type : ι}

/-! ## From entities to records and back -/

namespace OfType

theorem type_eq {entity : Entity ι} (h : entity.OfType family type) : entity.type = type := by
  cases h
  rfl

theorem declared {entity : Entity ι} (h : entity.OfType family type) :
    entity.Declared family := by
  cases h with
  | mk hcolumns hrelations hpeers => exact ⟨hcolumns, hrelations⟩

/-- An entity and its record have the same relations, with peers that are made of each other. -/
theorem linkToRecord_of_rel (hfamily : Coherent family) {relation : Relation × ι}
    (hrelation : relation ∈ (family type).relations) {cell : Cell (Entity ι)} {cell' : Cell Record}
    (hpeers : ∀ peer, cell = .present peer → peer.OfType family relation.2)
    (hrel : Cell.Rel (fun peer record => peer.toRecord family = .ok record) cell cell') :
    linkToRecord family (relation.1, cell) = .ok (relation.1, cell') := by
  refine linkToRecord_eq_ok.mpr ⟨rfl, hrel.mono fun peer record hpeer _ hrecord => ⟨hrecord, ?_⟩⟩
  obtain ⟨-, -, htable, -, -⟩ := toRecord_eq_ok.mp hrecord
  rw [htable, (hpeers peer hpeer).type_eq]
  exact hfamily.targets type relation hrelation

/-- Exactly the bounded entities of a type have records. -/
theorem exists_toRecord_iff (hfamily : Coherent family) {entity : Entity ι}
    (h : entity.OfType family type) :
    (∃ record, entity.toRecord family = .ok record) ↔ entity.Bounded := by
  -- by induction on the entity: its peers have records if and only if they are bounded
  induction h with
  | @mk type fields links key hcolumns hrelations hpeers ih =>
    have hlength : (family type).relations.length = links.length := by
      simpa using (congrArg List.length hrelations).symm
    constructor
    · rintro ⟨record, hrecord⟩
      obtain ⟨hwithin, hlinks, -, -, -⟩ := toRecord_eq_ok.mp hrecord
      refine bounded_iff.mpr ⟨hwithin, fun link hlink peer hpeer => ?_⟩
      obtain ⟨relation, hpair⟩ := exists_mem_zip hlength hlink
      obtain ⟨made, -, hmade⟩ := exists_of_mem_left hlinks hlink
      obtain ⟨-, hrel⟩ := linkToRecord_eq_ok.mp hmade
      obtain ⟨made, -, hrecord, -⟩ := hrel.exists_of_present hpeer
      exact (ih _ hpair peer hpeer).mp ⟨made, hrecord⟩
    · intro hbounded
      obtain ⟨hwithin, hbounded⟩ := bounded_iff.mp hbounded
      obtain ⟨made, hlinks⟩ : ∃ made,
          List.Forall₂ (fun link made => linkToRecord family link = .ok made) links made := by
        refine exists_forall₂ ?_
        intro link hlink
        obtain ⟨relation, hpair⟩ := exists_mem_zip hlength hlink
        obtain ⟨cell, hrel⟩ : ∃ cell,
            Cell.Rel (fun peer record => peer.toRecord family = .ok record) link.2 cell :=
          Cell.exists_rel fun peer hpeer =>
            (ih _ hpair peer hpeer).mpr (hbounded link hlink peer hpeer)
        have hkey : link.1 = relation.1 := eq_of_mem_zip hrelations hpair
        have hlinked := linkToRecord_of_rel hfamily (List.of_mem_zip hpair).1 (hpeers _ hpair) hrel
        rw [← hkey] at hlinked
        exact ⟨_, hlinked⟩
      exact ⟨⟨_, _, made, _⟩, toRecord_eq_ok.mpr ⟨hwithin, hlinks, rfl, rfl, rfl⟩⟩

end OfType

/-! ## Reading records of a type -/

section Read

variable {record : Record}

theorem readField_of_mem (hnodup : (record.fields.map (·.1.name)).Nodup) {field : TypedField}
    (hfield : (field.column, field.untyped) ∈ record.fields) :
    readField record field.column = .ok field := by
  have hfound := (find?_key_eq_some hnodup).mpr ⟨hfield, rfl⟩
  have hcell : record.cell field.column.name = .ok field.untyped := by
    rw [Record.cell, hfound]
  exact bind_eq_ok.mpr ⟨_, hcell, field.ofCell_untyped⟩

theorem readLink_of_mem (hnodup : (record.links.map (·.1.key)).Nodup)
    {relation : Relation × ι} {cell : Cell Record} (hlink : (relation.1, cell) ∈ record.links)
    {cell' : Cell (Entity ι)}
    (hrel : Cell.Rel (fun peer entity => ofRecord family peer relation.2 = .ok entity) cell cell') :
    readLink family record relation = .ok (relation.1, cell') := by
  have hfound : record.links.find? (·.1.key == relation.1.key) = some (relation.1, cell) :=
    (find?_key_eq_some hnodup).mpr ⟨hlink, rfl⟩
  exact (readLink_of_find? hfound).trans (map_eq_ok.mpr ⟨cell', Cell.mapM_eq_ok.mpr hrel, rfl⟩)

/-- A record with the layout of a type has its names but once. -/
theorem nodup_of_schema (hfamily : Coherent family)
    (hschema : record.schema = (family type).schema) :
    (record.fields.map (·.1.name)).Nodup ∧ (record.links.map (·.1.key)).Nodup := by
  have hcolumns : record.fields.map Prod.fst = (family type).columns :=
    congrArg Schema.columns hschema
  have hrelations : record.links.map Prod.fst = (family type).relations.map Prod.fst :=
    congrArg Schema.relations hschema
  have hnames : (record.fields.map Prod.fst).map (·.name) = record.fields.map (·.1.name) :=
    List.map_map
  have hkeys : (record.links.map Prod.fst).map (·.key) = record.links.map (·.1.key) := List.map_map
  constructor
  · rw [← hnames, hcolumns]
    exact hfamily.columns type
  · rw [← hkeys, hrelations, List.map_map]
    exact hfamily.relations type

end Read

/-- An entity is read back from its record, which is a record of the same type. -/
theorem OfType.ofRecord_toRecord (hfamily : Coherent family) {entity : Entity ι}
    (h : entity.OfType family type) {record : Record}
    (hrecord : entity.toRecord family = .ok record) :
    record.OfType family type ∧ ofRecord family record type = .ok entity := by
  -- by induction on the entity: each peer is read back from the record that was made of it
  induction h generalizing record with
  | @mk type fields links key hcolumns hrelations hpeers ih =>
    have hentity : OfType family type ⟨type, fields, links, key⟩ := .mk hcolumns hrelations hpeers
    obtain ⟨hschema, -⟩ := hentity.declared.schema_toRecord hrecord
    obtain ⟨hnames, hkeys⟩ := nodup_of_schema hfamily hschema
    obtain ⟨-, hlinks, htable, hfields, hkey⟩ := toRecord_eq_ok.mp hrecord
    have hpaired := forall₂_of_zip hrelations (R := fun relation link => ∀ peer,
      link.2 = .present peer → ∀ {record}, peer.toRecord family = .ok record →
        record.OfType family relation.2 ∧ ofRecord family record relation.2 = .ok peer) ih
    constructor
    · refine .mk hschema fun pair hpair peer hpeer => ?_
      obtain ⟨link, ⟨-, hread⟩, hmade⟩ :=
        (List.forall₂_iff_zip.mp (comp_forall₂ hpaired hlinks)).2 hpair
      obtain ⟨-, hrel⟩ := linkToRecord_eq_ok.mp hmade
      obtain ⟨entity, hentity, hrecord, -⟩ := hrel.flip.exists_of_present hpeer
      exact (hread entity hentity hrecord).1
    · refine ofRecord_eq_ok.mpr ⟨htable, ?_, ?_, rfl, hkey.symm⟩
      · rw [mapM_eq_ok, ← hcolumns, List.forall₂_map_left_iff, List.forall₂_same]
        intro field hfield
        refine readField_of_mem hnames ?_
        rw [hfields]
        exact List.mem_map_of_mem hfield
      · obtain ⟨hlength, hpaired⟩ := List.forall₂_iff_zip.mp hpaired
        refine mapM_eq_ok.mpr (List.forall₂_iff_zip.mpr ⟨hlength, ?_⟩)
        rintro relation ⟨key, cell⟩ hpair
        obtain ⟨hsame, hread⟩ := hpaired hpair
        obtain ⟨⟨key', cell'⟩, hmem, hmade⟩ := exists_of_mem_left hlinks (List.of_mem_zip hpair).2
        obtain ⟨hsame', hrel⟩ := linkToRecord_eq_ok.mp hmade
        obtain rfl : key = relation.1 := hsame
        obtain rfl : key' = relation.1 := hsame'
        refine readLink_of_mem hkeys hmem (hrel.flip.mono fun record peer _ hpeer hrecord => ?_)
        exact (hread peer hpeer hrecord.1).2

/-- What a field of a record is read as. -/
theorem exists_readField {record : Record} (hnodup : (record.fields.map (·.1.name)).Nodup)
    {field : Column × Cell Value} (hfield : field ∈ record.fields) (hfits : FieldFits field) :
    ∃ typed : TypedField, (typed.column, typed.untyped) = field ∧ typed.Within ∧
      readField record field.1 = .ok typed := by
  obtain ⟨column, cell⟩ := field
  obtain ⟨typed, hsame⟩ := TypedField.exists_untyped hfits
  cases hsame
  exact ⟨typed, rfl, TypedField.fits_iff_within.mp hfits, readField_of_mem hnodup hfield⟩

/-- What a relation of a record is read as, when its peers are written back as they were. -/
theorem exists_readLink (hfamily : Coherent family) {record : Record}
    (hnodup : (record.links.map (·.1.key)).Nodup) {relation : Relation × ι}
    (hrelation : relation ∈ (family type).relations) {cell : Cell Record}
    (hlink : (relation.1, cell) ∈ record.links)
    (hpeers : ∀ peer, cell = .present peer → ∃ entity,
      ofRecord family peer relation.2 = .ok entity ∧ entity.OfType family relation.2 ∧
        entity.toRecord family = .ok peer) :
    ∃ link, readLink family record relation = .ok link ∧
      linkToRecord family link = .ok (relation.1, cell) ∧
        ∀ peer, link.2 = .present peer → peer.OfType family relation.2 := by
  obtain ⟨cell', hrel⟩ := Cell.exists_rel hpeers
  have htyped : ∀ peer, cell' = .present peer → peer.OfType family relation.2 := by
    intro peer hpeer
    obtain ⟨_, -, -, htype, -⟩ := hrel.flip.exists_of_present hpeer
    exact htype
  refine ⟨(relation.1, cell'), ?_, ?_, htyped⟩
  · exact readLink_of_mem hnodup hlink (hrel.mono fun _ _ _ _ h => h.1)
  · exact OfType.linkToRecord_of_rel hfamily hrelation htyped
      (hrel.flip.mono fun _ _ _ _ h => h.2.2)

/-- A record is written back as it was from the entity that is read from it. -/
theorem exists_ofRecord (hfamily : Coherent family) {record : Record}
    (h : record.OfType family type) (hbuilt : record.Built) :
    ∃ entity, ofRecord family record type = .ok entity ∧ entity.OfType family type ∧
      entity.toRecord family = .ok record := by
  -- by induction on the record: each of its peers is read and written back
  induction h with
  | @mk type record hschema hpeers ih =>
    obtain ⟨hnames, hkeys⟩ := nodup_of_schema hfamily hschema
    have hcolumns : record.fields.map Prod.fst = (family type).columns :=
      congrArg Schema.columns hschema
    have hrelations : record.links.map Prod.fst = (family type).relations.map Prod.fst :=
      congrArg Schema.relations hschema
    have htable : record.table = (family type).table := congrArg Schema.table hschema
    have hlength : (family type).relations.length = record.links.length := by
      simpa using (congrArg List.length hrelations).symm
    obtain ⟨fields, hfields⟩ := exists_forall₂ fun field hfield =>
      exists_readField hnames hfield (hbuilt.fits field hfield)
    obtain ⟨links, hlinks⟩ : ∃ links, List.Forall₂
        (fun pair link => readLink family record pair.1 = .ok link ∧
          linkToRecord family link = .ok pair.2 ∧
            ∀ peer, link.2 = .present peer → peer.OfType family pair.1.2)
          ((family type).relations.zip record.links) links := by
      refine exists_forall₂ ?_
      rintro ⟨relation, key, cell⟩ hpair
      obtain ⟨hrelation, hlink⟩ := List.of_mem_zip hpair
      obtain rfl : key = relation.1 := eq_of_mem_zip hrelations hpair
      exact exists_readLink hfamily hkeys hrelation hlink fun peer hpeer =>
        ih _ hpair peer hpeer (hbuilt.peers _ hlink peer hpeer)
    have hread : List.Forall₂ (fun relation link => readLink family record relation = .ok link ∧
        ∀ peer, link.2 = .present peer → peer.OfType family relation.2)
          (family type).relations links := by
      rw [← List.map_fst_zip (Nat.le_of_eq hlength), List.forall₂_map_left_iff]
      exact hlinks.imp fun _ _ h => ⟨h.1, h.2.2⟩
    have hmade : List.Forall₂ (fun link made => linkToRecord family link = .ok made) links
        record.links := by
      rw [← List.map_snd_zip (Nat.le_of_eq hlength.symm), List.forall₂_map_right_iff]
      exact hlinks.flip.imp fun _ _ h => h.2.1
    refine ⟨⟨type, fields, links, record.key⟩, ?_, ?_, ?_⟩
    · refine ofRecord_eq_ok.mpr ⟨htable, ?_, mapM_eq_ok.mpr (hread.imp fun _ _ h => h.1), rfl, rfl⟩
      rw [mapM_eq_ok, ← hcolumns, List.forall₂_map_left_iff]
      exact hfields.imp fun _ _ h => h.2.2
    · refine .mk ?_ ?_ fun pair hpair => ?_
      · rw [← hcolumns, ← map_eq_of_forall₂ hfields fun _ _ h => h.1, List.map_map]
        rfl
      · rw [← hrelations]
        apply forall₂_eq_iff_map_eq.mp
        exact hmade.imp fun _ _ h => (linkToRecord_eq_ok.mp h).1.symm
      · exact ((List.forall₂_iff_zip.mp hread).2 hpair).2
    · refine toRecord_eq_ok.mpr ⟨fun field hmem => ?_, hmade, htable, ?_, rfl⟩
      · obtain ⟨_, -, -, hwithin, -⟩ := exists_of_mem_right hfields hmem
        exact hwithin
      · exact (map_eq_of_forall₂ hfields fun _ _ h => h.1).symm

/-- Exactly the entities whose texts, and those of all that they reach, are within their bounds have
a record, and are read back from it. Every record that is built with the layout of a type, and so
have its peers, is that of an entity, which is read from it. -/
theorem isomorphic_records (hfamily : Coherent family) (type : ι) :
    (∀ entity : Entity ι, entity.OfType family type →
      ((∃ record, entity.toRecord family = .ok record) ↔ entity.Bounded) ∧
        ∀ record, entity.toRecord family = .ok record →
          record.OfType family type ∧ ofRecord family record type = .ok entity) ∧
    ∀ record : Record, record.Built → record.OfType family type →
      ∃ entity, ofRecord family record type = .ok entity ∧ entity.OfType family type ∧
        entity.toRecord family = .ok record := by
  refine ⟨fun entity hentity => ⟨?_, fun record hrecord => ?_⟩, fun record hbuilt hrecord => ?_⟩
  · exact hentity.exists_toRecord_iff hfamily
  · exact hentity.ofRecord_toRecord hfamily hrecord
  · exact exists_ofRecord hfamily hrecord hbuilt

end Entity

/-! ## Linked nodes -/

/-- Nodes with a label, each of which leads to another one. -/
def nodes (_ : Unit) : EntityDecl Unit where
  name := "Node"
  table := "node"
  columns := [.primary "id", .regular "label" (.varchar 5) true]
  relations := [(⟨"next", "node", "last", .left⟩, ()), (⟨"last", "node", "next", .right⟩, ())]

theorem coherent_nodes : Coherent nodes where
  columns := fun () => by decide
  relations := fun () => by decide
  targets := fun () => by decide

/-- A node that nothing leads to. -/
def node (label : String) (next : Cell (Entity Unit)) : Entity Unit where
  type := ()
  fields := [⟨.primary "id", .undefined⟩, ⟨.regular "label" (.varchar 5) true, .present label⟩]
  links := [(⟨"next", "node", "last", .left⟩, next), (⟨"last", "node", "next", .right⟩, .undefined)]
  key := .present label

namespace Entity

theorem ofType_node {label : String} {next : Cell (Entity Unit)}
    (h : ∀ peer, next = .present peer → peer.OfType nodes ()) :
    (node label next).OfType nodes () := by
  refine .mk rfl rfl ?_
  intro pair hpair
  rcases List.mem_cons.mp hpair with rfl | hpair
  · exact h
  · rcases List.mem_singleton.mp hpair with rfl
    rintro _ ⟨⟩

theorem bounded_node {label : String} {next : Cell (Entity Unit)} :
    (node label next).Bounded ↔
      label.length ≤ 5 ∧ ∀ peer, next = .present peer → peer.Bounded := by
  rw [bounded_iff]
  constructor
  · rintro ⟨hfields, hlinks⟩
    refine ⟨?_, hlinks _ List.mem_cons_self⟩
    exact hfields _ (List.mem_cons_of_mem _ List.mem_cons_self) 5 label rfl rfl
  · rintro ⟨hlabel, hnext⟩
    constructor
    · intro field hfield maxLength content hkind hcontent
      rcases List.mem_cons.mp hfield with rfl | hfield
      · cases hkind
      · rcases List.mem_singleton.mp hfield with rfl
        cases hkind
        cases hcontent
        exact hlabel
    · intro link hlink
      rcases List.mem_cons.mp hlink with rfl | hlink
      · exact hnext
      · rcases List.mem_singleton.mp hlink with rfl
        rintro _ ⟨⟩

/-- Two nodes are read back from their record, unless a label has more than five characters. -/
theorem isomorphic_records_nodes :
    Coherent nodes ∧
      (∃ record, (node "älter" (.present (node "" .null))).toRecord nodes = .ok record ∧
        ofRecord nodes record () = .ok (node "älter" (.present (node "" .null)))) ∧
      ¬ ∃ record, (node "" (.present (node "younger" .null))).toRecord nodes = .ok record := by
  have htype : ∀ label label', (node label (.present (node label' .null))).OfType nodes () := by
    intro label label'
    refine ofType_node ?_
    rintro _ ⟨⟩
    refine ofType_node ?_
    rintro _ ⟨⟩
  obtain ⟨hentities, -⟩ := isomorphic_records coherent_nodes ()
  refine ⟨coherent_nodes, ?_, ?_⟩
  · obtain ⟨hiff, hread⟩ := hentities _ (htype "älter" "")
    have hbounded : (node "älter" (.present (node "" .null))).Bounded := by
      refine bounded_node.mpr ⟨by decide, ?_⟩
      rintro _ ⟨⟩
      refine bounded_node.mpr ⟨by decide, ?_⟩
      rintro _ ⟨⟩
    obtain ⟨record, hrecord⟩ := hiff.mpr hbounded
    exact ⟨record, hrecord, (hread record hrecord).2⟩
  · rw [(hentities _ (htype "" "younger")).1, bounded_node]
    rintro ⟨-, hpeers⟩
    exact absurd (bounded_node.mp (hpeers _ rfl)).1 (by decide)

end Entity

end RecordMapper
