import RecordMapper.Proofs.Reading
import RecordMapper.Proofs.Registry
import RecordMapper.Proofs.Statement.Write

/-!
# Insertions are read back

* `Insert.ofText?`: the insertion that a statement asks for, found in its text alone.
* `Insert.ofText?_render`: it is the insertion that was written.
* `Record.find?_field`, `Record.find?_link`, `Record.find?_key`: what a record writes under a name.
-/

namespace RecordMapper

namespace Insert

open SqlReader

/-- Takes an insertion, with a bound on the number of its columns. -/
def reader (dialect : Dialect) (bound : Nat) : SqlReader Insert := do
  symbol "INSERT INTO "
  let table ← name
  symbol " "
  if dialect.defaultValues.toList.isPrefixOf (← get) then
    symbol dialect.defaultValues
    return { table, entries := [] }
  else
    symbol "("
    let names ← separated name bound
    symbol ") VALUES ("
    let literals ← separated (literal dialect) bound
    symbol ")"
    return { table, entries := List.zipWith Entry.mk names literals }

/-- The insertion of a whole statement. -/
def ofText? (dialect : Dialect) (sql : String) : Option Insert :=
  match (reader dialect sql.toList.length).run sql.toList with
  | some (insert, []) => some insert
  | _ => none

theorem length_entries_le (dialect : Dialect) (insert : Insert) :
    insert.entries.length ≤ (insert.render dialect).toList.length := by
  by_cases hne : insert.entries = []
  · rw [hne]
    exact Nat.zero_le _
  · have hnames : insert.entries.length ≤
        (", ".intercalate (insert.entries.map (Dialect.identifier ·.name))).toList.length :=
      length_le_intercalate fun entry _ => one_le_length_identifier entry.name
    simp only [render_of_ne_nil dialect hne, String.toList_append, List.length_append]
    omega

theorem zipWith_entries (entries : List Entry) :
    List.zipWith Entry.mk (entries.map (·.name)) (entries.map (·.literal)) = entries := by
  rw [List.zipWith_map, List.zipWith_self]
  exact List.map_id' entries

/-- A list of names starts with a backtick, which tells it from default values. -/
theorem not_defaultValues (dialect : Dialect) {entries : List Entry} (hne : entries ≠ [])
    (rest : List Char) :
    ¬ dialect.defaultValues.toList.isPrefixOf ("(".toList ++
      ((", ".intercalate (entries.map (Dialect.identifier ·.name))).toList ++ rest)) = true := by
  have hwrite : entries.map (Dialect.identifier ·.name) =
      (entries.map (·.name)).map Dialect.identifier := by
    rw [List.map_map]
    rfl
  have hnames : entries.map (·.name) ≠ [] := List.map_eq_nil_iff.not.mpr hne
  have hhead := head?_names hnames rest
  rw [hwrite]
  obtain ⟨more, hmore⟩ := List.head?_eq_some_iff.mp hhead
  rw [hmore]
  cases dialect <;> exact Bool.false_ne_true

theorem run_names {entries : List Entry} (hne : entries ≠ [])
    (hnames : ∀ entry ∈ entries, Quotable entry.name) {bound : Nat}
    (hbound : entries.length ≤ bound) (rest : List Char) :
    (separated name bound).run
        ((", ".intercalate (entries.map (Dialect.identifier ·.name))).toList ++
          (") VALUES (".toList ++ rest)) =
      some (entries.map (·.name), ") VALUES (".toList ++ rest) := by
  have hcomma : (") VALUES (".toList ++ rest).head? ≠ some ',' := by
    intro h
    cases h
  refine run_separated ?_ hne hbound (ends_of_isEnding rfl _) hcomma
  intro entry hentry rest hends
  exact run_name (hnames entry hentry) hends

theorem run_literals (dialect : Dialect) {entries : List Entry} (hne : entries ≠ []) {bound : Nat}
    (hbound : entries.length ≤ bound) (rest : List Char) :
    (separated (literal dialect) bound).run
        ((", ".intercalate (entries.map (dialect.literal ·.literal))).toList ++
          (")".toList ++ rest)) =
      some (entries.map (·.literal), ")".toList ++ rest) := by
  have hcomma : (")".toList ++ rest).head? ≠ some ',' := by
    intro h
    cases h
  refine run_separated ?_ hne hbound (ends_of_isEnding rfl _) hcomma
  intro entry hentry rest hends
  exact run_literal dialect entry.literal hends

theorem toList_render_of_ne_nil (dialect : Dialect) {insert : Insert} (hne : insert.entries ≠ []) :
    (insert.render dialect).toList = "INSERT INTO ".toList ++
      ((Dialect.identifier insert.table).toList ++ (" ".toList ++ ("(".toList ++
        ((", ".intercalate (insert.entries.map (Dialect.identifier ·.name))).toList ++
          (") VALUES (".toList ++
            ((", ".intercalate (insert.entries.map (dialect.literal ·.literal))).toList ++
              (")".toList ++ []))))))) := by
  simp only [render_of_ne_nil dialect hne, String.toList_append, List.append_assoc,
    List.append_nil]

/-- An insertion is read back from its text. -/
theorem run_reader (dialect : Dialect) {insert : Insert} (htable : Quotable insert.table)
    (hnames : ∀ entry ∈ insert.entries, Quotable entry.name) {bound : Nat}
    (hbound : insert.entries.length ≤ bound) :
    (reader dialect bound).run (insert.render dialect).toList = some (insert, []) := by
  have hspace : ∀ rest, Ends (" ".toList ++ rest) := fun rest => ends_of_isEnding rfl rest
  obtain ⟨table, entries⟩ := insert
  -- without entries the text says so in the words of the dialect, which start no list of names
  by_cases hne : entries = []
  · subst hne
    have hprefix : dialect.defaultValues.toList.isPrefixOf
        (dialect.defaultValues.toList ++ []) := by
      cases dialect <;> rfl
    have htext : (render dialect ⟨table, []⟩).toList = "INSERT INTO ".toList ++
        ((Dialect.identifier table).toList ++ (" ".toList ++
          (dialect.defaultValues.toList ++ []))) := by
      simp only [render, List.isEmpty_nil, if_true, String.toList_append, List.append_assoc,
        List.append_nil]
    rw [htext, reader, run_bind_of (run_symbol _ _), run_bind_of (run_name htable (hspace _)),
      run_bind_of (run_symbol _ _), run_bind_of (run_get _), if_pos hprefix,
      run_bind_of (run_symbol _ _)]
    rfl
  · rw [toList_render_of_ne_nil dialect hne, reader, run_bind_of (run_symbol _ _),
      run_bind_of (run_name htable (hspace _)), run_bind_of (run_symbol _ _),
      run_bind_of (run_get _), if_neg (not_defaultValues dialect hne _),
      run_bind_of (run_symbol _ _), run_bind_of (run_names hne hnames hbound _),
      run_bind_of (run_symbol _ _), run_bind_of (run_literals dialect hne hbound _),
      run_bind_of (run_symbol _ _), zipWith_entries]
    rfl

/-- The text of an insertion determines it. -/
theorem ofText?_render (dialect : Dialect) {insert : Insert} (htable : Quotable insert.table)
    (hnames : ∀ entry ∈ insert.entries, Quotable entry.name) :
    ofText? dialect (insert.render dialect) = some insert := by
  rw [ofText?, run_reader dialect htable hnames (length_entries_le dialect insert)]

end Insert

/-! ## Lists of an insertion -/

/-- The names and the values of a new row, each as they are listed. -/
structure InsertLists where
  table : String
  names : List String
  literals : List Literal
deriving DecidableEq, Repr

namespace InsertLists

open SqlReader

/-- Takes an insertion that lists names and values, with a bound on their numbers. -/
def reader (dialect : Dialect) (bound : Nat) : SqlReader InsertLists := do
  symbol "INSERT INTO "
  let table ← name
  symbol " "
  symbol "("
  let names ← separated name bound
  symbol ") VALUES ("
  let literals ← separated (literal dialect) bound
  symbol ")"
  return { table, names, literals }

/-- The lists in a whole statement. -/
def ofText? (dialect : Dialect) (sql : String) : Option InsertLists :=
  match (reader dialect sql.toList.length).run sql.toList with
  | some (lists, []) => some lists
  | _ => none

theorem ofText?_render (dialect : Dialect) {insert : Insert} (hne : insert.entries ≠ [])
    (htable : Quotable insert.table) (hnames : ∀ entry ∈ insert.entries, Quotable entry.name) :
    ofText? dialect (insert.render dialect) = some {
      table := insert.table
      names := insert.entries.map (·.name)
      literals := insert.entries.map (·.literal) } := by
  have hspace : ∀ rest, Ends (" ".toList ++ rest) := fun rest => ends_of_isEnding rfl rest
  have hbound := Insert.length_entries_le dialect insert
  rw [ofText?]
  generalize (insert.render dialect).toList.length = bound at hbound ⊢
  rw [Insert.toList_render_of_ne_nil dialect hne, reader, run_bind_of (run_symbol _ _),
    run_bind_of (run_name htable (hspace _)), run_bind_of (run_symbol _ _),
    run_bind_of (run_symbol _ _), run_bind_of (Insert.run_names hne hnames hbound _),
    run_bind_of (run_symbol _ _), run_bind_of (Insert.run_literals dialect hne hbound _),
    run_bind_of (run_symbol _ _)]
  rfl

end InsertLists

/-! ## What is written under a name -/

section Lookup

variable {α : Type} {key : α → String} {g : α → Option Entry} {xs : List α}

theorem find?_filterMap_eq_none (hg : ∀ x entry, g x = some entry → entry.name = key x) {k : String}
    (hk : k ∉ xs.map key) : (xs.filterMap g).find? (·.name == k) = none := by
  rw [List.find?_eq_none]
  intro entry hentry hname
  obtain ⟨x, hx, hgx⟩ := List.mem_filterMap.mp hentry
  refine hk (List.mem_map.mpr ⟨x, hx, ?_⟩)
  rw [← hg x entry hgx]
  exact beq_iff_eq.mp hname

/-- Under a key that is given once, only its owner writes. -/
theorem find?_filterMap (hg : ∀ x entry, g x = some entry → entry.name = key x)
    (hxs : (xs.map key).Nodup) {x : α} (hx : x ∈ xs) :
    (xs.filterMap g).find? (·.name == key x) = g x := by
  induction xs with
  | nil => cases hx
  | cons y ys ih =>
    obtain ⟨hy, hys⟩ := List.nodup_cons.mp hxs
    rw [List.filterMap_cons]
    rcases List.mem_cons.mp hx with rfl | hmem
    · cases hgx : g x with
      -- nothing behind the owner has its key, so what it does not write nobody writes
      | none => exact find?_filterMap_eq_none hg hy
      | some entry =>
        rw [List.find?_cons, hg x entry hgx, beq_self_eq_true]
    · have hne : key y ≠ key x := fun h => hy (h ▸ List.mem_map_of_mem hmem)
      cases hgy : g y with
      | none => exact ih hys hmem
      | some entry =>
        rw [List.find?_cons, hg y entry hgy, beq_false_of_ne hne]
        exact ih hys hmem

end Lookup

namespace Record

variable {record : Record} (h : record.schema.Consistent)

include h

theorem nodup_fieldNames : (record.fields.map (·.1.name)).Nodup := by
  have hcolumns := h.nodup_names
  rwa [Record.schema, List.map_map] at hcolumns

theorem nodup_linkKeys : (record.links.map (·.1.key)).Nodup := by
  have hrelations := h.nodup_keys
  rwa [Record.schema, List.map_map] at hrelations

theorem field_ne_link {field : Column × Cell Value} (hfield : field ∈ record.fields)
    {link : Relation × Cell Record} (hlink : link ∈ record.links) :
    field.1.name ≠ link.1.key :=
  h.column_ne_relation (List.mem_map_of_mem hfield) (List.mem_map_of_mem hlink)

theorem field_ne_key {field : Column × Cell Value} (hfield : field ∈ record.fields) :
    field.1.name ≠ instanceKeyColumn :=
  h.column_ne_key (List.mem_map_of_mem hfield)

theorem link_ne_key {link : Relation × Cell Record} (hlink : link ∈ record.links) :
    link.1.key ≠ instanceKeyColumn :=
  h.relation_ne_key (List.mem_map_of_mem hlink)

theorem find?_columnEntries_of_link {link : Relation × Cell Record} (hlink : link ∈ record.links) :
    record.columnEntries.find? (·.name == link.1.key) = none := by
  refine find?_filterMap_eq_none (fun _ _ => name_of_entryOfField?) fun hmem => ?_
  obtain ⟨field, hfield, hname⟩ := List.mem_map.mp hmem
  exact field_ne_link h hfield hlink hname

theorem find?_peerEntries_of_field {field : Column × Cell Value} (hfield : field ∈ record.fields) :
    record.peerEntries.find? (·.name == field.1.name) = none := by
  refine find?_filterMap_eq_none (fun _ _ hentry => (name_of_entryOfLink? hentry).2) fun hmem => ?_
  obtain ⟨link, hlink, hkey⟩ := List.mem_map.mp hmem
  exact field_ne_link h hfield hlink hkey.symm

omit h in
theorem keyEntries_named : ∀ entry ∈ record.keyEntries, entry.name = instanceKeyColumn :=
  fun _ hentry => Entry.name_of_ofCell? (Option.mem_toList.mp hentry)

section Keys

variable {keys : List Entry} (hkeys : ∀ entry ∈ keys, entry.name = instanceKeyColumn)

include hkeys

omit h in
theorem find?_keys_of_ne {name : String} (hne : name ≠ instanceKeyColumn) :
    keys.find? (·.name == name) = none := by
  rw [List.find?_eq_none]
  intro entry hentry hname
  rw [hkeys entry hentry] at hname
  exact hne (beq_iff_eq.mp hname).symm

/-- What is written for a column, whatever is written for the instance key. -/
theorem find?_field {field : Column × Cell Value} (hfield : field ∈ record.fields) :
    (record.columnEntries ++ keys ++ record.peerEntries).find? (·.name == field.1.name) =
      entryOfField? field := by
  have hcolumn : record.columnEntries.find? (·.name == field.1.name) = entryOfField? field :=
    find?_filterMap (fun _ _ => name_of_entryOfField?) (nodup_fieldNames h) hfield
  rw [List.find?_append, List.find?_append, hcolumn,
    find?_keys_of_ne hkeys (field_ne_key h hfield), find?_peerEntries_of_field h hfield,
    Option.or_none, Option.or_none]

/-- What is written for a relation, whatever is written for the instance key. -/
theorem find?_link {link : Relation × Cell Record} (hlink : link ∈ record.links) :
    (record.columnEntries ++ keys ++ record.peerEntries).find? (·.name == link.1.key) =
      entryOfLink? link := by
  have hpeer : record.peerEntries.find? (·.name == link.1.key) = entryOfLink? link :=
    find?_filterMap (fun _ _ hentry => (name_of_entryOfLink? hentry).2) (nodup_linkKeys h) hlink
  rw [List.find?_append, List.find?_append, find?_columnEntries_of_link h hlink,
    find?_keys_of_ne hkeys (link_ne_key h hlink), hpeer, Option.none_or, Option.none_or]

end Keys

/-- What a new row has as its instance key. -/
theorem find?_key : (record.columnEntries ++ record.keyEntries ++ record.peerEntries).find?
    (·.name == instanceKeyColumn) = Entry.ofCell? instanceKeyColumn (record.key.map .text) := by
  have hcolumns : record.columnEntries.find? (·.name == instanceKeyColumn) = none := by
    refine find?_filterMap_eq_none (fun _ _ => name_of_entryOfField?) fun hmem => ?_
    obtain ⟨field, hfield, hname⟩ := List.mem_map.mp hmem
    exact field_ne_key h hfield hname
  have hpeers : record.peerEntries.find? (·.name == instanceKeyColumn) = none := by
    refine find?_filterMap_eq_none (fun _ _ hentry => (name_of_entryOfLink? hentry).2) ?_
    intro hmem
    obtain ⟨link, hlink, hname⟩ := List.mem_map.mp hmem
    exact link_ne_key h hlink hname
  have hkey : record.keyEntries.find? (·.name == instanceKeyColumn) =
      Entry.ofCell? instanceKeyColumn (record.key.map .text) := by
    rw [keyEntries]
    cases hentry : Entry.ofCell? instanceKeyColumn (record.key.map .text) with
    | none => rfl
    | some entry =>
      rw [Option.toList_some, List.find?_singleton, Entry.name_of_ofCell? hentry,
        beq_self_eq_true, if_pos rfl]
  rw [List.find?_append, List.find?_append, hcolumns, hkey, hpeers, Option.none_or, Option.or_none]

end Record

end RecordMapper
