import Mathlib.Data.List.Nodup
import RecordMapper.Proofs.Statement.Change
import RecordMapper.Proofs.Statement.Definition
import RecordMapper.Proofs.Statement.Insertion

/-!
# What is written agrees with the table

* `TableDefinition.Admits`: columns under which a statement may write.
* `Record.admits_insert`, `Record.admits_update`: a record writes under such columns only.
* `Insert.exists_literal`, `Update.literal_ne_null`: no column is left without a value, or loses it,
  when its definition asks for one.
-/

namespace RecordMapper

/-- Names of columns that a definition has, in its order and each at most once, without that of the
primary column. -/
structure TableDefinition.Admits (definition : TableDefinition) (schema : Schema)
    (names : List String) : Prop where
  nodup : names.Nodup
  sublist : names.Sublist (definition.columns.map (·.name))
  primary : ∀ column ∈ schema.columns, column.isPrimary = true → column.name ∉ names

/-- The names of the columns that must not be null. -/
def TableDefinition.requiredNames (definition : TableDefinition) : List String :=
  (definition.columns.filter (·.isRequired)).map (·.name)

theorem TableDefinition.Admits.mono {definition : TableDefinition} {schema : Schema}
    {names names' : List String} (h : definition.Admits schema names)
    (hsub : names'.Sublist names) : definition.Admits schema names' where
  nodup := h.nodup.sublist hsub
  sublist := hsub.trans h.sublist
  primary column hcolumn hprimary hmem := h.primary column hcolumn hprimary (hsub.subset hmem)

/-! ## Names in a table -/

theorem Schema.Consistent.eq_of_name {schema : Schema} (h : schema.Consistent)
    {column column' : Column} (hcolumn : column ∈ schema.columns)
    (hcolumn' : column' ∈ schema.columns) (hname : column.name = column'.name) :
    column = column' :=
  List.inj_on_of_nodup_map h.nodup_names hcolumn hcolumn' hname

theorem Schema.Consistent.nodup_storedNames {schema : Schema} (h : schema.Consistent) :
    schema.storedNames.Nodup := by
  obtain ⟨hcolumns, hrelations, hdisjoint⟩ := List.nodup_append.mp h.distinct
  have howned : (schema.ownedRelations.map (·.key)).Sublist (schema.relations.map (·.key)) :=
    List.filter_sublist.map _
  -- the name that lies between those of columns and of relations is reserved
  have hreserved : ∀ name ∈ schema.memberNames, name ≠ instanceKeyColumn :=
    fun name hname => (h.named name hname).2.2
  refine List.nodup_append.mpr ⟨hcolumns, List.nodup_cons.mpr ⟨?_, hrelations.sublist howned⟩, ?_⟩
  · intro hmem
    exact hreserved _ (List.mem_append_right _ (howned.subset hmem)) rfl
  · intro name hname other hother
    rcases List.mem_cons.mp hother with rfl | hrelation
    · exact hreserved name (List.mem_append_left _ hname)
    · exact hdisjoint name hname other (howned.subset hrelation)

/-- The columns that must not be null are the required ones among those that are declared, and that
of the instance key. -/
theorem CreateTable.requiredNames_definition (dialect : Dialect) (schema : Schema) :
    ((ofSchema schema).definition dialect).requiredNames =
      (schema.columns.filter (·.isRequired)).map (·.name) ++ [instanceKeyColumn] := by
  have howned : (schema.ownedRelations.map fun relation => StoredColumn.clause dialect
      { name := relation.key, type := .key, isRequired := false }).filter (·.isRequired) = [] := by
    refine List.filter_eq_nil_iff.mpr fun clause hclause => ?_
    obtain ⟨relation, -, rfl⟩ := List.mem_map.mp hclause
    exact Bool.false_ne_true
  rw [TableDefinition.requiredNames, definition, ofSchema, Schema.storedColumns, List.map_append,
    List.map_cons, List.map_map, List.map_map, List.filter_append, List.filter_cons_of_pos rfl]
  rw [Function.comp_def, Function.comp_def, howned, List.map_append, List.filter_map, List.map_map]
  rfl

theorem CreateTable.mem_requiredNames {dialect : Dialect} {schema : Schema} {name : String}
    (h : name ∈ ((ofSchema schema).definition dialect).requiredNames) :
    name = instanceKeyColumn ∨
      ∃ column ∈ schema.columns, column.isRequired = true ∧ column.name = name := by
  rw [requiredNames_definition] at h
  rcases List.mem_append.mp h with hdeclared | hreserved
  · obtain ⟨column, hcolumn, hname⟩ := List.mem_map.mp hdeclared
    exact .inr ⟨column, (List.mem_filter.mp hcolumn).1, (List.mem_filter.mp hcolumn).2, hname⟩
  · exact .inl (List.mem_singleton.mp hreserved)

theorem map_filterMap_sublist {α : Type} {key : α → String} {p : α → Bool} {g : α → Option Entry}
    (hg : ∀ x entry, g x = some entry → p x = true ∧ entry.name = key x) (xs : List α) :
    ((xs.filterMap g).map (·.name)).Sublist ((xs.filter p).map key) := by
  induction xs with
  | nil => exact .slnil
  | cons x xs ih =>
    have htail : ((xs.filter p).map key).Sublist (((x :: xs).filter p).map key) :=
      ((List.sublist_cons_self x xs).filter p).map key
    cases hx : g x with
    | none =>
      rw [List.filterMap_cons_none hx]
      exact ih.trans htail
    | some entry =>
      obtain ⟨hp, hname⟩ := hg x entry hx
      rw [List.filterMap_cons_some hx, List.filter_cons_of_pos hp, List.map_cons, List.map_cons,
        hname]
      exact ih.cons_cons _

/-! ## Names of a record -/

theorem not_isPrimary_of_entryOfField? {field : Column × Cell Value} {entry : Entry}
    (h : entryOfField? field = some entry) : field.1.isPrimary = false := by
  rw [entryOfField?] at h
  split at h
  · cases h
  · next hprimary => exact Bool.eq_false_iff.mpr hprimary

namespace Record

variable (record : Record)

theorem columnNames_sublist :
    (record.columnEntries.map (·.name)).Sublist (record.schema.columns.map (·.name)) := by
  have hname : ∀ field entry, entryOfField? field = some entry →
      (fun _ => true) field = true ∧ entry.name = field.1.name :=
    fun _ _ hentry => ⟨rfl, name_of_entryOfField? hentry⟩
  have hnames := map_filterMap_sublist hname record.fields
  rw [List.filter_true] at hnames
  rw [Record.schema, List.map_map]
  exact hnames

theorem keyNames_sublist : (record.keyEntries.map (·.name)).Sublist [instanceKeyColumn] := by
  rw [keyEntries]
  cases hentry : Entry.ofCell? instanceKeyColumn (record.key.map .text) with
  | none => exact List.nil_sublist _
  | some entry =>
    rw [Option.toList_some, List.map_singleton, Entry.name_of_ofCell? hentry]

theorem peerNames_sublist :
    (record.peerEntries.map (·.name)).Sublist (record.schema.ownedRelations.map (·.key)) := by
  have hname : ∀ link entry, entryOfLink? link = some entry →
      link.1.ownsColumn = true ∧ entry.name = link.1.key := fun _ _ => name_of_entryOfLink?
  have hnames := map_filterMap_sublist hname record.links
  rw [Schema.ownedRelations, Record.schema, List.filter_map, List.map_map]
  exact hnames

variable {record} (h : record.schema.Consistent)

include h

theorem not_isPrimary_of_mem_entries {entry : Entry}
    (hentry : entry ∈ record.columnEntries ++ record.keyEntries ++ record.peerEntries)
    {column : Column} (hcolumn : column ∈ record.schema.columns)
    (hname : entry.name = column.name) : column.isPrimary = false := by
  rcases List.mem_append.mp hentry with hentry | hpeer
  · rcases List.mem_append.mp hentry with hwritten | hkey
    · obtain ⟨field, hfield, hwrite⟩ := List.mem_filterMap.mp hwritten
      have hsame : field.1 = column := by
        refine h.eq_of_name (List.mem_map_of_mem hfield) hcolumn ?_
        rw [← name_of_entryOfField? hwrite, hname]
      exact hsame ▸ not_isPrimary_of_entryOfField? hwrite
    · rw [Entry.name_of_ofCell? (Option.mem_toList.mp hkey)] at hname
      exact absurd hname.symm (h.column_ne_key hcolumn)
  · obtain ⟨link, hlink, hwrite⟩ := List.mem_filterMap.mp hpeer
    rw [(name_of_entryOfLink? hwrite).2] at hname
    exact absurd hname.symm (h.column_ne_relation hcolumn (List.mem_map_of_mem hlink))

theorem admits_insert (dialect : Dialect) :
    ((CreateTable.ofSchema record.schema).definition dialect).Admits record.schema
      ((record.columnEntries ++ record.keyEntries ++ record.peerEntries).map (·.name)) := by
  have hsublist : ((record.columnEntries ++ record.keyEntries ++ record.peerEntries).map
      (·.name)).Sublist record.schema.storedNames := by
    rw [List.map_append, List.map_append, List.append_assoc]
    exact record.columnNames_sublist.append
      (record.keyNames_sublist.append record.peerNames_sublist)
  refine ⟨h.nodup_storedNames.sublist hsublist, ?_, fun column hcolumn hprimary hmem => ?_⟩
  · rwa [CreateTable.map_name_definition]
  · obtain ⟨entry, hentry, hname⟩ := List.mem_map.mp hmem
    rw [not_isPrimary_of_mem_entries h hentry hcolumn hname] at hprimary
    cases hprimary

theorem admits_update (dialect : Dialect) :
    ((CreateTable.ofSchema record.schema).definition dialect).Admits record.schema
      ((record.columnEntries ++ record.peerEntries).map (·.name)) := by
  refine (admits_insert h dialect).mono (List.Sublist.map _ ?_)
  exact (List.sublist_append_left _ _).append (List.Sublist.refl _)

theorem key_not_mem_update :
    instanceKeyColumn ∉ (record.columnEntries ++ record.peerEntries).map (·.name) := by
  intro hmem
  obtain ⟨entry, hentry, hname⟩ := List.mem_map.mp hmem
  rcases List.mem_append.mp hentry with hcolumn | hpeer
  · obtain ⟨field, hfield, hwrite⟩ := List.mem_filterMap.mp hcolumn
    rw [name_of_entryOfField? hwrite] at hname
    exact field_ne_key h hfield hname
  · obtain ⟨link, hlink, hwrite⟩ := List.mem_filterMap.mp hpeer
    rw [(name_of_entryOfLink? hwrite).2] at hname
    exact link_ne_key h hlink hname

end Record

/-! ## Values that are asked for -/

theorem Column.not_isPrimary_of_isRequired {column : Column} (h : column.isRequired = true) :
    column.isPrimary = false := by
  rw [Column.isRequired, Bool.and_eq_true, Bool.not_eq_true'] at h
  exact h.1

/-- An insertion brings a value for each required column. -/
theorem Insert.exists_literal {record : Record} {insert : Insert}
    (hinsert : ofRecord record = .ok insert) {column : Column}
    (hcolumn : column ∈ record.schema.columns) (hrequired : column.isRequired = true) :
    ∃ literal, literal ≠ .null ∧ { name := column.name, literal } ∈ insert.entries := by
  obtain ⟨hvalues, -, -, rfl⟩ := ofRecord_eq_ok.mp hinsert
  obtain ⟨⟨_, cell⟩, hfield, rfl⟩ := List.mem_map.mp hcolumn
  have hpresent := hvalues _ hfield hrequired
  cases cell with
  | undefined | null => cases hpresent
  | present value =>
    refine ⟨value.literal, value.literal_ne_null, ?_⟩
    apply List.mem_append_left
    apply List.mem_append_left
    refine List.mem_filterMap.mpr ⟨_, hfield, ?_⟩
    rw [entryOfField?, Column.not_isPrimary_of_isRequired hrequired, if_neg Bool.false_ne_true]
    rfl

theorem Insert.key_mem_entries {record : Record} {insert : Insert}
    (hinsert : ofRecord record = .ok insert) {key : String} (hkey : record.key = .present key) :
    { name := instanceKeyColumn, literal := .text key } ∈ insert.entries := by
  obtain ⟨-, -, -, rfl⟩ := ofRecord_eq_ok.mp hinsert
  apply List.mem_append_left
  apply List.mem_append_right
  rw [Record.keyEntries, hkey]
  exact List.mem_singleton.mpr rfl

/-- A change takes the value of no required column. -/
theorem Update.literal_ne_null {record : Record} (h : record.schema.Consistent) {query : Query}
    {update : Update} (hupdate : ofRecord record query = .ok update) {column : Column}
    (hcolumn : column ∈ record.schema.columns) (hrequired : column.isRequired = true)
    {entry : Entry} (hentry : entry ∈ update.entries) (hname : entry.name = column.name) :
    entry.literal ≠ .null := by
  obtain ⟨-, hvalues, -, -, hentries, -⟩ := ofRecord_eq_ok.mp hupdate
  rw [hentries] at hentry
  rcases List.mem_append.mp hentry with hwritten | hpeer
  · obtain ⟨⟨other, cell⟩, hfield, hwrite⟩ := List.mem_filterMap.mp hwritten
    have hsame : other = column := by
      refine h.eq_of_name (List.mem_map_of_mem hfield) hcolumn ?_
      rw [← hname, name_of_entryOfField? hwrite]
    subst hsame
    have hset := hvalues _ hfield hrequired
    rw [entryOfField?, Column.not_isPrimary_of_isRequired hrequired,
      if_neg Bool.false_ne_true] at hwrite
    cases cell with
    | undefined => cases hwrite
    | null => cases hset
    | present value =>
      cases hwrite
      exact value.literal_ne_null
  · obtain ⟨link, hlink, hwrite⟩ := List.mem_filterMap.mp hpeer
    rw [(name_of_entryOfLink? hwrite).2] at hname
    exact absurd hname.symm (h.column_ne_relation hcolumn (List.mem_map_of_mem hlink))

end RecordMapper
