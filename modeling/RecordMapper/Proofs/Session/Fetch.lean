import RecordMapper.Proofs.Faults
import RecordMapper.Proofs.Record
import RecordMapper.Proofs.Session.Footprint

/-!
# What is read and written

* `Session.settles_hydrate`, `Session.Hydrated`: what is made of a row.
* `Session.checksFirst_insert`, `Session.checksFirst_select`, `Session.checksFirst_update`,
  `Session.checksFirst_delete`: the uses of a table check what they are given before they send
  calls, and each sends calls of one kind.

A table that a relation leads to is registered, and what is read from it is a record of it. So no
check of a peer fails once a row has come.
-/

namespace RecordMapper

/-! ## Records of rows -/

namespace Record

variable {schema : Schema} {columns : NameSet} {row : Row} {record : Record}

theorem fst_of_fieldOfRow {table : String} {column : Column} {field : Column × Cell Value}
    (h : fieldOfRow table columns row column = .ok field) : field.1 = column := by
  rw [fieldOfRow] at h
  split at h
  · split at h
    · obtain ⟨cell, -, rfl⟩ := map_eq_ok.mp h
      rfl
    · cases h
  · cases h
    rfl

theorem ofRow_eq_ok : ofRow schema columns row = .ok record ↔
    schema.columns.mapM (fieldOfRow schema.table columns row) = .ok record.fields ∧
      record.table = schema.table ∧ record.links = schema.relations.map (·, .undefined) ∧
      record.key = keyOfRow row := by
  rw [ofRow, bind_eq_ok]
  constructor
  · rintro ⟨fields, hfields, h⟩
    cases h
    exact ⟨hfields, rfl, rfl, rfl⟩
  · rintro ⟨hfields, htable, hlinks, hkey⟩
    refine ⟨record.fields, hfields, ?_⟩
    cases record
    simp_all [empty, pure, Except.pure]

theorem schema_of_ofRow (h : ofRow schema columns row = .ok record) : record.schema = schema := by
  obtain ⟨hfields, htable, hlinks, -⟩ := ofRow_eq_ok.mp h
  have hcolumns : record.fields.map Prod.fst = schema.columns :=
    map_eq_of_forall₂ (mapM_eq_ok.mp hfields) fun _ _ hfield => fst_of_fieldOfRow hfield
  simp [Record.schema, htable, hlinks, hcolumns, Function.comp_def]

theorem schema_with_links (h : ofRow schema columns row = .ok record)
    {links : List (Relation × Cell Record)} (hlinks : links.map Prod.fst = schema.relations) :
    ({ record with links } : Record).schema = schema := by
  rw [← schema_of_ofRow h] at hlinks ⊢
  simp only [Record.schema, hlinks]

theorem bare_of_ofRow (h : ofRow schema columns row = .ok record) : record.Bare := by
  obtain ⟨-, -, hlinks, -⟩ := ofRow_eq_ok.mp h
  intro link hlink
  rw [hlinks] at hlink
  obtain ⟨relation, -, rfl⟩ := List.mem_map.mp hlink
  rfl

end Record

/-! ## Tables of a catalogue -/

namespace Catalogue

variable {catalogue : Catalogue} {schema : Schema}

theorem requireTable_eq_ok {table : String} :
    catalogue.requireTable table = .ok schema ↔ catalogue.schema? table = some schema := by
  rw [requireTable]
  split
  · next hfound => rw [hfound, Except.ok.injEq, Option.some.injEq]
  · next hnone =>
    rw [hnone]
    constructor <;> rintro ⟨⟩

theorem requireLayout_eq_ok {schema' : Schema} :
    catalogue.requireLayout schema = .ok schema' ↔
      schema ∈ catalogue.schemas ∧ schema = schema' := by
  rw [requireLayout, bind_eq_ok]
  constructor
  · rintro ⟨registered, hfound, h⟩
    split at h
    · next hsame =>
      cases h
      rw [requireTable_eq_ok, schema?_eq_some] at hfound
      exact ⟨hsame ▸ hfound.1, hsame.symm⟩
    · cases h
  · rintro ⟨hmem, rfl⟩
    refine ⟨schema, requireTable_eq_ok.mpr (schema?_eq_some.mpr ⟨hmem, rfl⟩), ?_⟩
    rw [if_pos rfl]
    rfl

/-- The other side of a relation is declared in a registered table. -/
theorem exists_target (hschema : schema ∈ catalogue.schemas) {relation : Relation}
    (hrelation : relation ∈ schema.relations) :
    ∃ target, catalogue.schema? relation.targetTable = some target := by
  obtain ⟨target, htarget, htable, -⟩ :=
    catalogue.consistent.mirrored schema hschema relation hrelation
  exact ⟨target, schema?_eq_some.mpr ⟨htarget, htable⟩⟩

end Catalogue

/-- The column by which the peer of a relation is looked up. -/
def Relation.lookupColumn (relation : Relation) : String :=
  match relation.side with
  | .left => instanceKeyColumn
  | .right => relation.targetKey

namespace Session

variable {surroundings : Surroundings} {schema : Schema}

/-! ## Reading rows -/

/-- The calls that read rows. -/
inductive Reads (dialect : Dialect) : Call → Prop
  | query (select : Select) : Reads dialect (.query (select.render dialect))

/-- The calls that look for the rows of a table in which a column has a text. -/
inductive LooksUp (dialect : Dialect) (target : Schema) (column : String) : Call → Prop
  | query (key : String) :
      LooksUp dialect target column (.query ((Select.byKey target.table column key).render dialect))

theorem LooksUp.reads {dialect : Dialect} {target : Schema} {column : String} {call : Call}
    (h : LooksUp dialect target column call) : Reads dialect call := by
  cases h with
  | query key => exact .query _

/-- What is found as the peer of a relation is a record of the table that the relation leads to,
without peers of its own. -/
def Fetched (catalogue : Catalogue) (relation : Relation) (cell : Cell Record) : Prop :=
  ∀ peer, cell = .present peer →
    catalogue.schema? relation.targetTable = some peer.schema ∧ peer.Bare

theorem fetched_null (catalogue : Catalogue) (relation : Relation) :
    Fetched catalogue relation .null := nofun

theorem fetched_undefined (catalogue : Catalogue) (relation : Relation) :
    Fetched catalogue relation .undefined := nofun

theorem Fetched.checkPeer {catalogue : Catalogue} {relation : Relation} {cell : Cell Record}
    (h : Fetched catalogue relation cell) : relation.checkPeer cell = .ok cell := by
  refine Relation.checkPeer_eq_ok.mpr ⟨fun peer hpeer => ?_, rfl⟩
  exact (Catalogue.schema?_eq_some.mp (h peer hpeer).1).2

theorem settles_fetchPeer {target : Schema} {relation : Relation} (column key : String)
    (htarget : surroundings.catalogue.schema? relation.targetTable = some target) :
    Settles surroundings (LooksUp surroundings.catalogue.dialect target column)
      (fetchPeer target relation column key) (Fetched surroundings.catalogue relation) := by
  apply settles_dialect_bind
  refine settles_bind (settles_query (.query _)) fun rows _ => ?_
  split
  · exact settles_pure (fetched_null _ _)
  · refine settles_bind (settles_lift (Record.fails_ofRow _ _ _) fun _ h => h) fun peer hpeer => ?_
    apply settles_pure
    rintro _ ⟨⟩
    rw [Record.schema_of_ofRow hpeer]
    exact ⟨htarget, Record.bare_of_ofRow hpeer⟩
  · exact settles_fail rfl

theorem settles_resolve (table : String) (row : Row) {relation : Relation} {target : Schema}
    (htarget : surroundings.catalogue.schema? relation.targetTable = some target) :
    Settles surroundings (LooksUp surroundings.catalogue.dialect target relation.lookupColumn)
      (resolve table row relation) (Fetched surroundings.catalogue relation) := by
  have hrequire := Catalogue.requireTable_eq_ok.mpr htarget
  refine leaves_read_bind ?_
  rw [hrequire, Relation.lookupColumn, lift, pure_bind]
  cases relation.side with
  | left =>
    dsimp only
    split
    · exact settles_fail rfl
    · exact settles_pure (fetched_null _ _)
    · exact settles_fetchPeer _ _ htarget
  | right =>
    dsimp only
    split
    · exact settles_fetchPeer _ _ htarget
    · exact settles_fail rfl

/-- A relation of a row, with its peer if it is asked for. -/
def resolveAsked (table : String) (relations : NameSet) (row : Row) (relation : Relation) :
    Session (Relation × Cell Record) := do
  if relation.key ∈ relations then
    let peer ← resolve table row relation
    return (relation, ← lift (relation.checkPeer peer))
  else return (relation, .undefined)

theorem hydrate_eq (schema : Schema) (columns relations : NameSet) (row : Row) :
    hydrate schema columns relations row = do
      let record ← lift (Record.ofRow schema columns row)
      let links ← schema.relations.mapM (resolveAsked schema.table relations row)
      return { record with links } := rfl

theorem settles_resolveAsked (hschema : schema ∈ surroundings.catalogue.schemas)
    (relations : NameSet) (row : Row) {relation : Relation}
    (hrelation : relation ∈ schema.relations) :
    Settles surroundings (Reads surroundings.catalogue.dialect)
      (resolveAsked schema.table relations row relation) fun link => link.1 = relation ∧
        (∀ peer, link.2 = .present peer → relation.key ∈ relations) ∧
        Fetched surroundings.catalogue relation link.2 := by
  rw [resolveAsked]
  split
  · next hasked =>
    obtain ⟨target, htarget⟩ := Catalogue.exists_target hschema hrelation
    have hresolve := settles_mono (settles_resolve schema.table row htarget)
      (fun _ => LooksUp.reads) fun _ h => h
    refine settles_bind hresolve fun peer hpeer => ?_
    rw [hpeer.checkPeer]
    exact settles_pure ⟨rfl, fun _ _ => hasked, hpeer⟩
  · exact settles_pure ⟨rfl, nofun, fetched_undefined _ _⟩

/-- A record of a schema, with peers only in the relations that were asked for. -/
structure Hydrated (catalogue : Catalogue) (schema : Schema) (relations : NameSet)
    (record : Record) : Prop where
  schema_eq : record.schema = schema
  asked : ∀ link ∈ record.links, ∀ peer, link.2 = .present peer → link.1.key ∈ relations
  fetched : ∀ link ∈ record.links, Fetched catalogue link.1 link.2

theorem settles_hydrate (hschema : schema ∈ surroundings.catalogue.schemas)
    (columns relations : NameSet) (row : Row) :
    Settles surroundings (Reads surroundings.catalogue.dialect)
      (hydrate schema columns relations row)
      (Hydrated surroundings.catalogue schema relations) := by
  rw [hydrate_eq]
  refine settles_bind (settles_lift (Record.fails_ofRow _ _ _) fun _ h => h) ?_
  intro record hrecord
  have hlinks := settles_mapM fun _ hrelation =>
    settles_resolveAsked hschema relations row hrelation
  refine settles_bind hlinks fun links hall => settles_pure ?_
  have hrelations : links.map Prod.fst = schema.relations :=
    map_eq_of_forall₂ hall fun _ _ h => h.1
  have heach : ∀ link ∈ links, (∀ peer, link.2 = .present peer → link.1.key ∈ relations) ∧
      Fetched surroundings.catalogue link.1 link.2 := by
    intro link hlink
    obtain ⟨relation, -, rfl, hfetched⟩ := exists_of_mem_right hall hlink
    exact hfetched
  exact ⟨Record.schema_with_links hrecord hrelations, fun link hlink => (heach link hlink).1,
    fun link hlink => (heach link hlink).2⟩

/-! ## Uses of a table -/

/-- The calls that insert a record: that of an insertion of the record under a new instance key, and
those that read it back. -/
inductive Inserts (dialect : Dialect) (record : Record) : Call → Prop
  | execute {key : String} {staged : Record} {insert : Insert} :
      record.setKey key = .ok staged → Insert.ofRecord staged = .ok insert →
        Inserts dialect record (.execute (insert.render dialect))
  | query (select : Select) : Inserts dialect record (.query (select.render dialect))

theorem Reads.inserts {dialect : Dialect} {call : Call} (h : Reads dialect call)
    (record : Record) : Inserts dialect record call := by
  cases h with
  | query select => exact .query select

/-- The calls that change the rows of a query. -/
inductive Updates (dialect : Dialect) (record : Record) (request : Query) : Call → Prop
  | execute {update : Update} : Update.ofRecord record request = .ok update →
      Updates dialect record request (.execute (update.render dialect))

/-- The calls that remove the rows of a query. -/
inductive Deletes (dialect : Dialect) (schema : Schema) (request : Query) : Call → Prop
  | execute {delete : Delete} : Delete.ofQuery schema request = .ok delete →
      Deletes dialect schema request (.execute (delete.render dialect))

theorem checks_drawKey : Checks surroundings drawKey fun _ => True :=
  fun _ => ⟨{}, ⟨(List.append_nil _).symm, (List.append_nil _).symm⟩, .passed trivial⟩

/-- The peers of a record stay with it, if they are of the right tables. -/
theorem mapM_checkPeer {record : Record} (h : record.Linked) :
    (record.links.mapM fun link => do return (link.1, ← lift (link.1.checkPeer link.2)) :
      Session (List (Relation × Cell Record))) = pure record.links := by
  have hcheck : ∀ link ∈ record.links, (do
      return (link.1, ← lift (link.1.checkPeer link.2)) : Session (Relation × Cell Record)) =
        pure link := by
    intro link hlink
    rw [Relation.checkPeer_eq_ok.mpr ⟨h link hlink, rfl⟩]
    rfl
  rw [mapM_congr_of_mem hcheck, List.mapM_pure, List.map_id']

theorem checksFirst_insert {record : Record}
    (hschema : record.schema ∈ surroundings.catalogue.schemas) (hlinked : record.Linked) :
    ChecksFirst surroundings (Inserts surroundings.catalogue.dialect record) (insert record)
      fun stored => stored.schema = record.schema ∧ stored.links = record.links := by
  refine checksFirst_bind checks_drawKey fun key _ => ?_
  refine checksFirst_bind (checks_lift (record.fails_setKey key)) fun staged hstaged => ?_
  refine checksFirst_bind (checks_lift (Insert.fails_ofRecord staged)) fun insert hinsert => ?_
  -- from here on nothing is wrong with the record any more
  apply checksFirst_of_settles
  apply settles_dialect_bind
  refine settles_bind (settles_execute (.execute hstaged hinsert)) fun _ _ => ?_
  apply settles_dialect_bind
  refine settles_bind (settles_query (.query _)) fun rows _ => ?_
  split
  · have hread := settles_hydrate hschema .empty .empty ‹Row›
    refine settles_bind (settles_mono hread (fun _ h => h.inserts record) fun _ h => h) ?_
    intro stored hstored
    rw [mapM_checkPeer hlinked, pure_bind]
    refine settles_pure ⟨?_, rfl⟩
    have hkept := hstored.schema_eq
    simp only [Record.schema, Schema.mk.injEq] at hkept ⊢
    exact ⟨hkept.1, hkept.2.1, trivial⟩
  · exact settles_fail rfl

theorem checksFirst_select (hschema : schema ∈ surroundings.catalogue.schemas) (request : Query) :
    ChecksFirst surroundings (Reads surroundings.catalogue.dialect) (select schema request)
      fun records => ∀ record ∈ records,
        Hydrated surroundings.catalogue schema request.relations record := by
  refine checksFirst_bind (checks_lift (Select.fails_ofQuery schema request)) fun select _ => ?_
  apply checksFirst_of_settles
  apply settles_dialect_bind
  refine settles_bind (settles_query (.query _)) fun rows _ => ?_
  refine settles_mono (settles_mapM fun row _ => settles_hydrate hschema _ _ row) (fun _ h => h) ?_
  intro records hrecords record hrecord
  obtain ⟨row, -, hhydrated⟩ := exists_of_mem_right hrecords hrecord
  exact hhydrated

theorem checksFirst_update (record : Record) (request : Query) :
    ChecksFirst surroundings (Updates surroundings.catalogue.dialect record request)
      (update record request) fun _ => True := by
  refine checksFirst_bind (checks_lift (Update.fails_ofRecord record request)) ?_
  intro update hupdate
  apply checksFirst_of_settles
  apply settles_dialect_bind
  exact settles_execute (.execute hupdate)

theorem checksFirst_delete (schema : Schema) (request : Query) :
    ChecksFirst surroundings (Deletes surroundings.catalogue.dialect schema request)
      (delete schema request) fun _ => True := by
  refine checksFirst_bind (checks_lift (Delete.fails_ofQuery schema request)) ?_
  intro delete hdelete
  apply checksFirst_of_settles
  apply settles_dialect_bind
  exact settles_execute (.execute hdelete)

end Session

end RecordMapper
