import Mathlib.Data.List.Nodup
import RecordMapper.Proofs.Statement.Insertion
import RecordMapper.Session.Fetch

/-!
# Records come back from a store

* `Insert.storedRow`: the row that a faithful store has after an insertion.
* `Record.stored`: a record as the store gives it back.
* `hydrate_storedRow`: the record of that row is the one that was inserted, with the number that the
  store gave it.
-/

namespace RecordMapper

/-! ## Rows of a faithful store -/

/-- The text that stands for a literal in a row; null has none. -/
def Literal.stored : Literal → Option String
  | .null => none
  | .integer number => some (Decimal.ofInt number)
  | .text content => some content

namespace Insert

/-- What a new row holds in a column: the number that the store gives in the primary column, the
literal of a column that the insertion names, and null elsewhere. -/
def storedText (schema : Schema) (number : UInt32) (insert : Insert) (name : String) :
    Option String :=
  if schema.columns.any fun column => column.isPrimary && column.name == name then
    some (Decimal.ofNat number.toNat)
  else (insert.entries.find? (·.name == name)).bind (·.literal.stored)

/-- A new row, with all columns that the table has in the store. -/
def storedRow (schema : Schema) (number : UInt32) (insert : Insert) : Row :=
  ⟨schema.storedNames.map fun name => (name, insert.storedText schema number name)⟩

end Insert

/-- A record as it comes back: its primary column has a number, what was not set is null, and no
peer is resolved. -/
def Record.stored (record : Record) (number : UInt32) : Record where
  table := record.table
  fields := record.fields.map fun field =>
    (field.1,
      if field.1.isPrimary then .present (.uint32 number)
      else if field.2.isUndefined then .null
      else field.2)
  links := record.links.map fun link => (link.1, .undefined)
  key := record.key

theorem Row.get?_map {names : List String} {content : String → Option String} {name : String}
    (h : name ∈ names) : (⟨names.map fun n => (n, content n)⟩ : Row).get? name =
      some (content name) := by
  rw [get?]
  induction names with
  | nil => cases h
  | cons first rest ih =>
    rw [List.map_cons, List.find?_cons]
    by_cases hname : first = name
    · rw [hname, beq_self_eq_true]
      rfl
    · rw [beq_false_of_ne hname]
      exact ih ((List.mem_cons.mp h).resolve_left fun heq => hname heq.symm)

theorem stored_ofCell? (name : String) (cell : Cell Value) :
    (Entry.ofCell? name cell).bind (·.literal.stored) = cell.present?.map Value.display := by
  cases cell with
  | undefined | null => rfl
  | present value => cases value <;> rfl

/-! ## Cells of a row -/

/-- A cell that fits is read back from its text, where what was not set comes back as null. -/
theorem Column.read_stored {column : Column} {cell : Cell Value} (h : FieldFits (column, cell)) :
    column.read (cell.present?.map Value.display) =
      .ok (if cell.isUndefined then .null else cell) := by
  cases cell with
  | undefined | null => rfl
  | present value =>
    have hread := (h value rfl).read_display
    rw [Cell.present?, Option.map_some, read, hread]
    rfl

theorem Column.read_number {column : Column} (h : column.kind = .primary) (number : UInt32) :
    column.read (some (Decimal.ofNat number.toNat)) = .ok (.present (.uint32 number)) := by
  rw [read, h, ColumnKind.read, Decimal.readUInt32_ofNat]

namespace Record

variable {record : Record} (h : record.schema.Consistent)

include h

/-- The primary column is known by its name. -/
theorem any_isPrimary {field : Column × Cell Value} (hfield : field ∈ record.fields) :
    (record.schema.columns.any fun column => column.isPrimary && column.name == field.1.name) =
      field.1.isPrimary := by
  rw [Bool.eq_iff_iff, List.any_eq_true]
  constructor
  · rintro ⟨column, hcolumn, hboth⟩
    obtain ⟨hprimary, hname⟩ := Bool.and_eq_true_iff.mp hboth
    obtain ⟨field', hfield', rfl⟩ := List.mem_map.mp hcolumn
    have hsame : field' = field :=
      List.inj_on_of_nodup_map (nodup_fieldNames h) hfield' hfield (beq_iff_eq.mp hname)
    exact hsame ▸ hprimary
  · intro hprimary
    refine ⟨field.1, List.mem_map_of_mem hfield, ?_⟩
    rw [hprimary, beq_self_eq_true]
    rfl

/-- What a new row has in a column is read as the cell of the record that comes back. -/
theorem fieldOfRow_storedRow (hfits : ∀ field ∈ record.fields, FieldFits field) {insert : Insert}
    (hinsert : Insert.ofRecord record = .ok insert) (number : UInt32)
    {field : Column × Cell Value} (hfield : field ∈ record.fields) :
    fieldOfRow record.table .empty (insert.storedRow record.schema number) field.1 =
      .ok (field.1,
        if field.1.isPrimary then .present (.uint32 number)
        else if field.2.isUndefined then .null
        else field.2) := by
  have hcolumn : field.1 ∈ record.schema.columns := List.mem_map_of_mem hfield
  have hname : field.1.name ∈ record.schema.storedNames :=
    List.mem_append_left _ (List.mem_map_of_mem hcolumn)
  have hget : (insert.storedRow record.schema number).get? field.1.name =
      some (insert.storedText record.schema number field.1.name) := Row.get?_map hname
  obtain ⟨-, -, -, rfl⟩ := Insert.ofRecord_eq_ok.mp hinsert
  have hall : (NameSet.empty.isEmpty || decide (field.1.name ∈ NameSet.empty)) = true := rfl
  rw [fieldOfRow, if_pos hall, hget, Insert.storedText, any_isPrimary h hfield]
  dsimp only
  -- the store fills the primary column; any other holds what the insertion names for it
  by_cases hprimary : field.1.isPrimary
  · have hkind : field.1.kind = .primary := (h.kinds field.1 hcolumn).mp hprimary
    rw [if_pos hprimary, if_pos hprimary, Column.read_number hkind]
    rfl
  · rw [if_neg hprimary, if_neg hprimary, find?_field h keyEntries_named hfield, entryOfField?,
      if_neg hprimary, stored_ofCell?, Column.read_stored (hfits field hfield)]
    rfl

theorem keyOfRow_storedRow {insert : Insert} (hinsert : Insert.ofRecord record = .ok insert)
    {key : String} (hkey : record.key = .present key) (number : UInt32) :
    keyOfRow (insert.storedRow record.schema number) = .present key := by
  have hname : instanceKeyColumn ∈ record.schema.storedNames :=
    List.mem_append_right _ List.mem_cons_self
  have hget : (insert.storedRow record.schema number).get? instanceKeyColumn =
      some (insert.storedText record.schema number instanceKeyColumn) := Row.get?_map hname
  have hprimary : ¬ (record.schema.columns.any fun column =>
      column.isPrimary && column.name == instanceKeyColumn) = true := by
    rw [List.any_eq_true]
    rintro ⟨column, hcolumn, hboth⟩
    obtain ⟨field, hfield, rfl⟩ := List.mem_map.mp hcolumn
    exact field_ne_key h hfield (beq_iff_eq.mp (Bool.and_eq_true_iff.mp hboth).2)
  obtain ⟨-, -, -, rfl⟩ := Insert.ofRecord_eq_ok.mp hinsert
  rw [keyOfRow, hget, Insert.storedText, if_neg hprimary, find?_key h, stored_ofCell?, hkey]
  rfl

/-- The row of an inserted record is read as the record that comes back. -/
theorem ofRow_storedRow (hfits : ∀ field ∈ record.fields, FieldFits field) {insert : Insert}
    (hinsert : Insert.ofRecord record = .ok insert) {key : String}
    (hkey : record.key = .present key) (number : UInt32) :
    ofRow record.schema .empty (insert.storedRow record.schema number) =
      .ok (record.stored number) := by
  have hfields : record.schema.columns.mapM
      (fieldOfRow record.table .empty (insert.storedRow record.schema number)) =
        .ok (record.stored number).fields := by
    rw [mapM_eq_ok, Record.schema, stored, List.forall₂_map_left_iff, List.forall₂_map_right_iff,
      List.forall₂_same]
    exact fun field hfield => fieldOfRow_storedRow h hfits hinsert number hfield
  have hlinks : (empty record.schema).links = (record.stored number).links := List.map_map
  rw [ofRow]
  refine bind_eq_ok.mpr ⟨_, hfields, ?_⟩
  rw [keyOfRow_storedRow h hinsert hkey]
  dsimp only
  rw [hlinks, ← hkey]
  rfl

end Record

/-! ## Reading a row -/

/-- Where no relation is asked for, a record is what its row says. -/
theorem Session.run_hydrate_of_ofRow {schema : Schema} {columns : NameSet} {row : Row}
    {record : Record} (h : Record.ofRow schema columns row = .ok record)
    (surroundings : Surroundings) (world : World) :
    (hydrate schema columns .empty row).run surroundings world = (.ok record, world) := by
  have hlinks : record = { record with links := schema.relations.map (·, .undefined) } := by
    obtain ⟨fields, -, hrecord⟩ := bind_eq_ok.mp h
    cases hrecord
    rfl
  have hnone : ∀ relation : Relation, relation.key ∉ NameSet.empty := fun _ => NameSet.not_mem_empty
  rw [hydrate, h, lift, pure_bind]
  simp only [hnone, if_false, List.mapM_pure, pure_bind]
  rw [← hlinks]
  rfl

/-- A record that was made by the operations on records and inserted comes back from a faithful
store: the insertion is read from the text of its statement, and the row that it leaves gives the
record, with the number of the row, and with null where nothing was set. -/
theorem hydrate_storedRow (catalogue : Catalogue) {schema : Schema}
    (hschema : schema ∈ catalogue.schemas) (dialect : Dialect) {record : Record}
    (hbuilt : record.Built) (hrecord : record.schema = schema) {key : String}
    (hkey : record.key = .present key) {insert : Insert}
    (hinsert : Insert.ofRecord record = .ok insert) (number : UInt32)
    (surroundings : Surroundings) (world : World) :
    ∃ written, Insert.ofText? dialect (insert.render dialect) = some written ∧
      (Session.hydrate schema .empty .empty (written.storedRow schema number)).run surroundings
        world = (.ok (record.stored number), world) := by
  subst hrecord
  have hconsistent := catalogue.consistent.each _ hschema
  have hquotable := catalogue.consistent.quotable hschema
  have htable : insert.table = record.table := by
    obtain ⟨-, -, -, rfl⟩ := Insert.ofRecord_eq_ok.mp hinsert
    rfl
  have hread : Insert.ofText? dialect (insert.render dialect) = some insert := by
    refine Insert.ofText?_render dialect (htable ▸ hquotable.table) fun entry hentry => ?_
    exact hquotable.storedNames _ (Insert.mem_storedNames_of_ofRecord hinsert hentry)
  refine ⟨insert, hread, ?_⟩
  have hrow := Record.ofRow_storedRow hconsistent hbuilt.fits hinsert hkey number
  exact Session.run_hydrate_of_ofRow hrow surroundings world

/-- A person with a name that has to be escaped, a mentor, and no age. -/
def person : Record where
  table := "person"
  fields := [(.primary "id", .undefined),
    (.regular "name" (.varchar 40) false, .present (.text "\"N\\'")),
    (.regular "age" .int32 true, .undefined)]
  links := [(⟨"passport", "passport", "holder", .left⟩, .null),
    (⟨"mentor", "person", "pupil", .left⟩, .undefined),
    (⟨"pupil", "person", "mentor", .right⟩, .undefined)]
  key := .present "k"

theorem built_person : person.Built := by
  have hname : (Record.empty Registry.persons).set "name" (.present (.text "\"N\\'")) =
      .ok ((Record.empty Registry.persons).putCell "name" (.present (.text "\"N\\'"))) := rfl
  have hnamed := Record.Built.set (.empty Registry.persons) hname
  have hlink : ((Record.empty Registry.persons).putCell "name" (.present (.text "\"N\\'"))).link
      "passport" .null = .ok { person with key := .undefined } := rfl
  have hpeer : ∀ peer, (.null : Cell Record) = .present peer → peer.Built := nofun
  exact (hnamed.link hpeer hlink).withKey (.present "k")

theorem hydrate_storedRow_person :
    person.Built ∧ ∃ insert written, Insert.ofRecord person = .ok insert ∧
      Insert.ofText? .mariadb (insert.render .mariadb) = some written ∧
      (Session.hydrate Registry.persons .empty .empty (written.storedRow Registry.persons 7)).run
        ⟨⟨.mariadb, Registry.population.schemas, rfl⟩, fun _ _ => .crashed, fun _ => 0⟩ {} =
          (.ok (person.stored 7), {}) := by
  have hinsert : Insert.ofRecord person = .ok
      ⟨"person", [⟨"name", .text "\"N\\'"⟩, ⟨"__instance_key", .text "k"⟩,
        ⟨"passport", .null⟩]⟩ := rfl
  obtain ⟨written, hread, hrun⟩ := hydrate_storedRow
    ⟨.mariadb, Registry.population.schemas, rfl⟩ List.mem_cons_self .mariadb built_person rfl rfl
    hinsert 7 ⟨⟨.mariadb, Registry.population.schemas, rfl⟩, fun _ _ => .crashed, fun _ => 0⟩ {}
  exact ⟨built_person, _, written, hinsert, hread, hrun⟩

end RecordMapper
