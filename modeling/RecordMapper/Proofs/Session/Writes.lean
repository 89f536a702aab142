import RecordMapper.Proofs.Entity
import RecordMapper.Proofs.Hydration
import RecordMapper.Proofs.Session.Order
import RecordMapper.Proofs.Statement.Admitted

/-!
# Rows that are written

* `Operation.Inserting`, `Operation.sends_inserting`: the operations that insert rows, and what they
  send.
* `writes_agree_with_definition`: what insertions and changes write agrees with the definition of
  the table, as the texts of the three statements have it.
-/

namespace RecordMapper

variable {ι : Type}

/-! ## Operations that insert -/

namespace Operation

open Session

/-- The operations that insert a row: of a record that was built, or of an entity of a type. -/
inductive Inserting (family : ι → EntityDecl ι) : Operation ι → Prop
  | record {record : Record} : record.Built → Inserting family (.insertRecord record)
  | entity {entity : Entity ι} : entity.Declared family → Inserting family (.insertEntity entity)

/-- The calls that insert a record of a registered table. -/
def InsertsRegistered (catalogue : Catalogue) (call : Call) : Prop :=
  ∃ record : Record, record.schema ∈ catalogue.schemas ∧ Inserts catalogue.dialect record call

variable {surroundings : Surroundings} {family : ι → EntityDecl ι}

theorem sends_guarded {α : Type} {C : Call → Prop} {operation : String} {table : Option String}
    {session : Session α} (h : Sends surroundings C session) :
    Sends surroundings C (guarded operation table session) := by
  have hnone : ∀ exchange ∈ ([] : List Exchange), C exchange.call := nofun
  have hguarded : Leaves surroundings (guarded operation table session) fun _ added =>
      ∀ exchange ∈ added.exchanges, C exchange.call :=
    leaves_guarded (Q := fun _ sent => ∀ exchange ∈ sent, C exchange.call) hnone hnone h
  exact hguarded

theorem sends_insert {record : Record} (hschema : record.schema ∈ surroundings.catalogue.schemas)
    (hlinked : record.Linked) :
    Sends surroundings (InsertsRegistered surroundings.catalogue) (insert record) := by
  refine leaves_mono (sends_of_checksFirst (checksFirst_insert hschema hlinked)) ?_
  intro result added hsent exchange hexchange
  exact ⟨record, hschema, hsent exchange hexchange⟩

theorem silent_stage {entity : Entity ι} (hdeclared : entity.Declared family) :
    Silent surroundings (stage family entity) fun record =>
      record.schema ∈ surroundings.catalogue.schemas ∧ record.Linked := by
  refine silent_bind (silent_of_checks (checks_discard (checks_requireLayout _))) ?_
  rintro _ ⟨_, rfl, hmem⟩
  refine leaves_mono (silent_lift _) fun result added h => ⟨h.1, fun record hrecord => ?_⟩
  obtain ⟨hschema, hlinked⟩ := hdeclared.schema_toRecord (h.2 record hrecord)
  exact ⟨hschema ▸ hmem, hlinked⟩

theorem sends_inserting {operation : Operation ι} (h : operation.Inserting family) :
    Sends surroundings (InsertsRegistered surroundings.catalogue) (operation.run family) := by
  cases h with
  | record hbuilt =>
    apply sends_guarded
    refine sends_bind_of_silent (silent_of_checks (checks_discard (checks_requireLayout _))) ?_
    rintro _ ⟨_, rfl, hmem⟩
    refine sends_bind (sends_insert hmem hbuilt.linked) fun _ => ?_
    exact leaves_pure nofun
  | entity hdeclared =>
    apply sends_guarded
    refine sends_bind_of_silent (silent_stage hdeclared) fun record hrecord => ?_
    refine sends_bind (sends_insert hrecord.1 hrecord.2) fun stored => ?_
    -- what was stored is only read as an entity after this
    refine sends_bind (sends_of_silent (silent_lift _)) fun _ => ?_
    exact leaves_pure nofun

end Operation

/-! ## Agreement with the definition -/

/-- The lists of an insertion agree with a definition: there are as many values as names, and no
column that asks for a value is left without one, apart from that of the instance key. -/
structure TableDefinition.TakesInsert (definition : TableDefinition) (schema : Schema)
    (lists : InsertLists) : Prop where
  admits : definition.Admits schema lists.names
  length : lists.literals.length = lists.names.length
  required : ∀ name ∈ definition.requiredNames, name ≠ instanceKeyColumn →
    ∃ literal, literal ≠ .null ∧ (name, literal) ∈ lists.names.zip lists.literals

/-- The assignments of a change agree with a definition: there are some, the instance key is left
alone, and no column that asks for a value loses it. -/
structure TableDefinition.TakesUpdate (definition : TableDefinition) (schema : Schema)
    (entries : List Entry) : Prop where
  admits : definition.Admits schema (entries.map (·.name))
  nonempty : entries ≠ []
  key : instanceKeyColumn ∉ entries.map (·.name)
  required : ∀ entry ∈ entries, entry.name ∈ definition.requiredNames → entry.literal ≠ .null

theorem InsertLists.mem_zip {entries : List Entry} {name : String} {literal : Literal}
    (h : { name, literal } ∈ entries) :
    (name, literal) ∈ (entries.map (·.name)).zip (entries.map (·.literal)) := by
  rw [List.zip_map']
  exact List.mem_map.mpr ⟨_, h, rfl⟩

namespace Record

variable {record : Record} (h : record.schema.Consistent)

include h

theorem takesInsert (dialect : Dialect) {insert : Insert}
    (hinsert : Insert.ofRecord record = .ok insert) :
    ((CreateTable.ofSchema record.schema).definition dialect).TakesInsert record.schema {
      table := insert.table
      names := insert.entries.map (·.name)
      literals := insert.entries.map (·.literal) } := by
  refine ⟨?_, ?_, fun name hrequired hname => ?_⟩
  · obtain ⟨-, -, -, rfl⟩ := Insert.ofRecord_eq_ok.mp hinsert
    exact record.admits_insert h dialect
  · rw [List.length_map, List.length_map]
  · rcases CreateTable.mem_requiredNames hrequired with hkey | ⟨column, hcolumn, hasked, rfl⟩
    · exact absurd hkey hname
    · obtain ⟨literal, hliteral, hentry⟩ := Insert.exists_literal hinsert hcolumn hasked
      exact ⟨literal, hliteral, InsertLists.mem_zip hentry⟩

theorem takesUpdate (dialect : Dialect) {query : Query} {update : Update}
    (hupdate : Update.ofRecord record query = .ok update) :
    ((CreateTable.ofSchema record.schema).definition dialect).TakesUpdate record.schema
      update.entries := by
  obtain ⟨-, -, -, -, hentries, hne⟩ := Update.ofRecord_eq_ok.mp hupdate
  have hkey : instanceKeyColumn ∉ update.entries.map (·.name) := by
    rw [hentries]
    exact record.key_not_mem_update h
  refine ⟨?_, hne, hkey, fun entry hentry hrequired => ?_⟩
  · rw [hentries]
    exact record.admits_update h dialect
  · rcases CreateTable.mem_requiredNames hrequired with hreserved | ⟨column, hcolumn, hasked, hname⟩
    · exact absurd (List.mem_map.mpr ⟨entry, hentry, hreserved⟩) hkey
    · exact Update.literal_ne_null h hupdate hcolumn hasked hentry hname.symm

end Record

theorem Insert.lists_ofText? (dialect : Dialect) {record : Record} {insert : Insert}
    (hquotable : record.schema.NamesQuotable) (hinsert : ofRecord record = .ok insert)
    (hne : insert.entries ≠ []) :
    InsertLists.ofText? dialect (insert.render dialect) = some {
      table := insert.table
      names := insert.entries.map (·.name)
      literals := insert.entries.map (·.literal) } := by
  have htable : insert.table = record.table := by
    obtain ⟨-, -, -, rfl⟩ := ofRecord_eq_ok.mp hinsert
    rfl
  refine InsertLists.ofText?_render dialect hne (htable ▸ hquotable.table) fun entry hentry => ?_
  exact hquotable.storedNames _ (mem_storedNames_of_ofRecord hinsert hentry)

/-- Whatever is inserted or changed in a registered table agrees with the definition of the table,
and every insertion that is sent brings an instance key. All of this is said of the texts of the
statements. -/
theorem writes_agree_with_definition (catalogue : Catalogue) :
    (∀ schema ∈ catalogue.schemas, ∀ (dialect : Dialect) (record : Record), record.schema = schema →
      ∃ definition, TableDefinition.ofText? ((CreateTable.ofSchema schema).render dialect) =
          some definition ∧
        definition.requiredNames =
          (schema.columns.filter (·.isRequired)).map (·.name) ++ [instanceKeyColumn] ∧
        (∀ insert, Insert.ofRecord record = .ok insert → insert.entries ≠ [] →
          ∃ lists, InsertLists.ofText? dialect (insert.render dialect) = some lists ∧
            definition.TakesInsert schema lists) ∧
        ∀ query update, Update.ofRecord record query = .ok update →
          ∃ entries, Update.assignments? dialect (update.render dialect) = some entries ∧
            definition.TakesUpdate schema entries) ∧
    ∀ (ι : Type) (family : ι → EntityDecl ι) (operation : Operation ι),
      operation.Inserting family → ∀ surroundings world, surroundings.catalogue = catalogue →
        ∃ sent, ((operation.run family).run surroundings world).2.exchanges =
            world.exchanges ++ sent ∧
          ∀ exchange ∈ sent, ∀ sql, exchange.call = .execute sql →
            ∃ lists key, InsertLists.ofText? catalogue.dialect sql = some lists ∧
              (instanceKeyColumn, .text key) ∈ lists.names.zip lists.literals := by
  constructor
  · rintro _ hschema dialect record rfl
    have hconsistent := catalogue.consistent.each _ hschema
    have hquotable := catalogue.consistent.quotable hschema
    refine ⟨_, record.schema.definition_ofText? dialect hquotable,
      CreateTable.requiredNames_definition dialect record.schema, ?_, ?_⟩
    · intro insert hinsert hne
      exact ⟨_, Insert.lists_ofText? dialect hquotable hinsert hne,
        record.takesInsert hconsistent dialect hinsert⟩
    · intro query update hupdate
      obtain ⟨-, -, -, htable, -, hne⟩ := Update.ofRecord_eq_ok.mp hupdate
      have hnames : ∀ entry ∈ update.entries, Quotable entry.name := fun entry hentry =>
        hquotable.storedNames _ (Update.mem_storedNames_of_ofRecord hupdate hentry)
      exact ⟨_, Update.assignments?_render dialect (htable ▸ hquotable.table) hnames hne,
        record.takesUpdate hconsistent dialect hupdate⟩
  · rintro ι family operation hinserting surroundings world rfl
    obtain ⟨added, hextends, hsent⟩ := Operation.sends_inserting hinserting world
    refine ⟨added.exchanges, hextends.exchanges, fun exchange hexchange sql hcall => ?_⟩
    obtain ⟨record, hschema, hcalled⟩ := hsent exchange hexchange
    rw [hcall] at hcalled
    cases hcalled with
    | @execute key staged insert hstaged hinsert =>
      rw [Record.setKey] at hstaged
      split at hstaged
      · cases hstaged
        have hquotable : (record.withKey (.present key)).schema.NamesQuotable :=
          surroundings.catalogue.consistent.quotable hschema
        have hentry := Insert.key_mem_entries hinsert rfl
        refine ⟨_, key, Insert.lists_ofText? _ hquotable hinsert (List.ne_nil_of_mem hentry), ?_⟩
        exact InsertLists.mem_zip hentry
      · cases hstaged

/-- A person with a name that has to be escaped, and no passport. -/
theorem writes_agree_with_definition_person :
    (∃ definition, TableDefinition.ofText?
        ((CreateTable.ofSchema Registry.persons).render .mariadb) = some definition ∧
      ∃ insert lists, Insert.ofRecord person = .ok insert ∧
        InsertLists.ofText? .mariadb (insert.render .mariadb) = some lists ∧
        definition.TakesInsert Registry.persons lists) ∧
    ∃ exchange ∈ (((Operation.insertRecord person : Operation Empty).run nofun).run
        ⟨⟨.mariadb, Registry.population.schemas, rfl⟩, fun _ _ => .done [], fun _ => 0⟩
        {}).2.exchanges, ∃ sql lists key, exchange.call = .execute sql ∧
      InsertLists.ofText? .mariadb sql = some lists ∧
      (instanceKeyColumn, .text key) ∈ lists.names.zip lists.literals := by
  have hinsert : Insert.ofRecord person = .ok
      ⟨"person", [⟨"name", .text "\"N\\'"⟩, ⟨"__instance_key", .text "k"⟩,
        ⟨"passport", .null⟩]⟩ := rfl
  have hinserting : (Operation.insertRecord person : Operation Empty).Inserting nofun :=
    .record built_person
  obtain ⟨hwrites, hsends⟩ :=
    writes_agree_with_definition ⟨.mariadb, Registry.population.schemas, rfl⟩
  constructor
  · obtain ⟨definition, hdefinition, -, hinserts, -⟩ :=
      hwrites Registry.persons List.mem_cons_self .mariadb person rfl
    obtain ⟨lists, hlists, htakes⟩ := hinserts _ hinsert (List.cons_ne_nil _ _)
    exact ⟨definition, hdefinition, _, lists, hinsert, hlists, htakes⟩
  · obtain ⟨sent, hsent, hkeys⟩ := hsends Empty nofun _ hinserting
      ⟨⟨.mariadb, Registry.population.schemas, rfl⟩, fun _ _ => .done [], fun _ => 0⟩ {} rfl
    rw [hsent]
    have hfirst : ∃ sql, sent.head?.map (·.call) = some (.execute sql) := by
      rw [← List.nil_append sent, ← hsent]
      exact ⟨_, rfl⟩
    obtain ⟨sql, hsql⟩ := hfirst
    obtain ⟨exchange, hhead, hcall⟩ := Option.map_eq_some_iff.mp hsql
    have hexchange := List.mem_of_head? hhead
    obtain ⟨lists, key, hlists, hkey⟩ := hkeys exchange hexchange _ hcall
    exact ⟨exchange, hexchange, _, lists, key, hcall, hlists, hkey⟩

end RecordMapper
