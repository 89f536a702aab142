import RecordMapper.Proofs.Statement.Admitted
import RecordMapper.Proofs.Statement.Determined
import RecordMapper.Proofs.Statement.Validity

/-!
# Records that can be written

* `Record.Insertable`, `Record.Updatable`: what a record must be like to be inserted, and to be
  written over the rows of a query.
* `Insert.ofRecord_ok_iff`, `Update.ofRecord_ok_iff`: exactly such records can be.
* `Record.written_alike`: both write the same columns and literals in the same order, except that
  only the insertion writes the instance key.
-/

namespace RecordMapper

/-! ## What a record must be like -/

/-- A query under which rows may be changed: it is for the rows of a valid predicate, or has none
and is meant for all rows. -/
def Query.AllowsChange (schema : Schema) (query : Query) : Prop :=
  (∃ predicate, query.predicate = some predicate ∧ predicate.Valid schema) ∨
    query.predicate = none ∧ query.unconditional = true

namespace Record

/-- Each required column has a value, the instance key is not null, and each peer to write has an
instance key. -/
structure Insertable (record : Record) : Prop where
  required : ∀ field ∈ record.fields, field.1.isRequired → field.2 ≠ .undefined ∧ field.2 ≠ .null
  key : record.key ≠ .null
  peers : ∀ link ∈ record.links, link.1.ownsColumn → ∀ peer, link.2 = .present peer →
    ∃ key, peer.key = .present key

/-- The query lets rows be changed, no required column loses its value, each peer to write has an
instance key, and there is something to write. -/
structure Updatable (record : Record) (query : Query) : Prop where
  allowed : query.AllowsChange record.schema
  required : ∀ field ∈ record.fields, field.1.isRequired → field.2 ≠ .null
  peers : ∀ link ∈ record.links, link.1.ownsColumn → ∀ peer, link.2 = .present peer →
    ∃ key, peer.key = .present key
  assigned : (∃ field ∈ record.fields, field.1.isPrimary = false ∧ field.2 ≠ .undefined) ∨
    ∃ link ∈ record.links, link.1.ownsColumn ∧ link.2 ≠ .undefined

end Record

/-! ## States of cells -/

namespace Cell

variable {α : Type}

theorem isPresent_iff {cell : Cell α} : cell.isPresent ↔ ∃ content, cell = .present content := by
  cases cell <;> simp [isPresent]

theorem isPresent_iff_ne {cell : Cell α} : cell.isPresent ↔ cell ≠ .undefined ∧ cell ≠ .null := by
  cases cell <;> simp [isPresent]

theorem isNull_eq_false_iff {cell : Cell α} : cell.isNull = false ↔ cell ≠ .null := by
  cases cell <;> simp [isNull]

end Cell

theorem forall_peerHasKey_iff {record : Record} :
    (∀ link ∈ record.links, PeerHasKey link) ↔ ∀ link ∈ record.links, link.1.ownsColumn →
      ∀ peer, link.2 = .present peer → ∃ key, peer.key = .present key := by
  simp only [PeerHasKey, Cell.isPresent_iff]

/-! ## Entries -/

theorem Entry.ofCell?_eq_none {name : String} {cell : Cell Value} :
    ofCell? name cell = none ↔ cell = .undefined := by
  cases cell <;> simp [ofCell?, Cell.literal?]

theorem entryOfField?_ne_none {field : Column × Cell Value} :
    entryOfField? field ≠ none ↔ field.1.isPrimary = false ∧ field.2 ≠ .undefined := by
  rw [entryOfField?]
  cases field.1.isPrimary with
  | true => simp
  | false => simp [Entry.ofCell?_eq_none]

theorem entryOfLink?_ne_none {link : Relation × Cell Record} (hpeer : PeerHasKey link) :
    entryOfLink? link ≠ none ↔ link.1.ownsColumn ∧ link.2 ≠ .undefined := by
  obtain ⟨relation, cell⟩ := link
  rw [entryOfLink?]
  by_cases howns : relation.ownsColumn
  · rw [if_pos howns, ne_eq, Entry.ofCell?_eq_none]
    refine (and_iff_right howns).symm.trans (and_congr_right fun _ => not_congr ?_)
    cases cell with
    | undefined | null => simp [peerKey, Cell.map]
    | present peer =>
      obtain ⟨key, hkey⟩ := Cell.isPresent_iff.mp (hpeer howns peer rfl)
      simp [peerKey, hkey, Cell.map]
  · simp [howns]

theorem Record.entries_ne_nil_iff {record : Record}
    (hpeers : ∀ link ∈ record.links, PeerHasKey link) :
    record.columnEntries ++ record.peerEntries ≠ [] ↔
      (∃ field ∈ record.fields, field.1.isPrimary = false ∧ field.2 ≠ .undefined) ∨
        ∃ link ∈ record.links, link.1.ownsColumn ∧ link.2 ≠ .undefined := by
  have hfilter : ∀ {α : Type} {f : α → Option Entry} {xs : List α},
      xs.filterMap f ≠ [] ↔ ∃ x ∈ xs, f x ≠ none := by
    intro α f xs
    rw [ne_eq, List.filterMap_eq_nil_iff]
    push Not
    rfl
  rw [ne_eq, List.append_eq_nil_iff, not_and_or, columnEntries, peerEntries, ← ne_eq, ← ne_eq,
    hfilter, hfilter]
  refine or_congr ?_ ?_
  · simp only [entryOfField?_ne_none]
  · refine exists_congr fun link => and_congr_right fun hlink => ?_
    exact entryOfLink?_ne_none (hpeers link hlink)

/-! ## Exactly these records -/

theorem Query.mutationFilter_ok_iff {schema : Schema} {mutation : Mutation} {query : Query} :
    (∃ condition, query.mutationFilter schema mutation = .ok condition) ↔
      query.AllowsChange schema := by
  rw [AllowsChange, mutationFilter, condition]
  cases query.predicate with
  | none => cases query.unconditional <;> simp
  | some predicate =>
    simp only [Option.isSome_some, Bool.true_or, if_true, Option.some.injEq, exists_eq_left',
      reduceCtorEq, false_and, or_false, map_eq_ok, ← Predicate.check_ok_iff]
    constructor
    · rintro ⟨-, found, hfound, -⟩
      exact ⟨found, hfound⟩
    · rintro ⟨found, hfound⟩
      exact ⟨_, found, hfound, rfl⟩

theorem Insert.ofRecord_ok_iff {record : Record} :
    (∃ insert, ofRecord record = .ok insert) ↔ record.Insertable := by
  simp only [ofRecord_eq_ok, Cell.isPresent_iff_ne, forall_peerHasKey_iff]
  exact ⟨fun ⟨_, hrequired, hkey, hpeers, _⟩ => ⟨hrequired, hkey, hpeers⟩,
    fun h => ⟨_, h.required, h.key, h.peers, rfl⟩⟩

theorem Update.ofRecord_ok_iff {record : Record} {query : Query} :
    (∃ update, ofRecord record query = .ok update) ↔ record.Updatable query := by
  simp only [ofRecord_eq_ok, Cell.isNull_eq_false_iff]
  constructor
  · rintro ⟨update, hcondition, hrequired, hpeers, -, hentries, hne⟩
    rw [hentries] at hne
    exact ⟨Query.mutationFilter_ok_iff.mp ⟨_, hcondition⟩, hrequired,
      forall_peerHasKey_iff.mp hpeers, (Record.entries_ne_nil_iff hpeers).mp hne⟩
  · rintro ⟨hallowed, hrequired, hpeers, hassigned⟩
    obtain ⟨condition, hcondition⟩ := Query.mutationFilter_ok_iff.mpr hallowed
    have hkeys := forall_peerHasKey_iff.mpr hpeers
    exact ⟨⟨record.table, record.columnEntries ++ record.peerEntries, condition⟩, hcondition,
      hrequired, hkeys, rfl, rfl, (Record.entries_ne_nil_iff hkeys).mpr hassigned⟩

/-! ## What both write -/

/-- An insertion and a change that write the same columns and literals in the same order, except
that only the insertion writes the instance key. In a table without reserved names these are its
entries of other names, and where all names can be written, both are read back from their texts. -/
structure Record.WrittenAlike (record : Record) (dialect : Dialect) (insert : Insert)
    (update : Update) : Prop where
  insert_entries : insert.entries = record.columnEntries ++ record.keyEntries ++ record.peerEntries
  update_entries : update.entries = record.columnEntries ++ record.peerEntries
  key_entries : record.keyEntries =
    record.key.present?.toList.map fun key => { name := instanceKeyColumn, literal := .text key }
  without_key : record.schema.Consistent →
    update.entries = insert.entries.filter (·.name != instanceKeyColumn)
  insert_text : record.schema.NamesQuotable →
    Insert.ofText? dialect (insert.render dialect) = some insert
  update_text : record.schema.NamesQuotable →
    Update.ofText? dialect (update.render dialect) = some update

theorem Record.keyEntries_of_ne_null {record : Record} (h : record.key ≠ .null) :
    record.keyEntries = record.key.present?.toList.map
      fun key => { name := instanceKeyColumn, literal := .text key } := by
  rw [keyEntries]
  cases hkey : record.key with
  | null => exact absurd hkey h
  | undefined | present => rfl

theorem Record.filter_entries {record : Record} (h : record.schema.Consistent) :
    (record.columnEntries ++ record.keyEntries ++ record.peerEntries).filter
      (·.name != instanceKeyColumn) = record.columnEntries ++ record.peerEntries := by
  have hothers := key_not_mem_update h
  have hkeys : record.keyEntries.filter (·.name != instanceKeyColumn) = [] := by
    refine List.filter_eq_nil_iff.mpr fun entry hentry => ?_
    rw [keyEntries_named entry hentry]
    decide
  have hkept : (record.columnEntries ++ record.peerEntries).filter (·.name != instanceKeyColumn) =
      record.columnEntries ++ record.peerEntries := by
    refine List.filter_eq_self.mpr fun entry hentry => bne_iff_ne.mpr fun hname => ?_
    exact hothers (hname ▸ List.mem_map_of_mem hentry)
  rw [List.filter_append, List.filter_append, hkeys, List.append_nil, ← List.filter_append, hkept]

theorem Record.writtenAlike {record : Record} {query : Query} {insert : Insert} {update : Update}
    (dialect : Dialect) (hinsert : Insert.ofRecord record = .ok insert)
    (hupdate : Update.ofRecord record query = .ok update) :
    record.WrittenAlike dialect insert update := by
  obtain ⟨-, hkey, -, hentries⟩ := Insert.ofRecord_eq_ok.mp hinsert
  obtain ⟨-, -, -, -, hentries', -⟩ := Update.ofRecord_eq_ok.mp hupdate
  have hwritten := (Insert.mk.inj hentries).2
  exact {
    insert_entries := hwritten
    update_entries := hentries'
    key_entries := keyEntries_of_ne_null hkey
    without_key := fun h => by rw [hentries', hwritten, filter_entries h]
    insert_text := fun h => Insert.ofText?_of_ofRecord h dialect hinsert
    update_text := fun h => Update.ofText?_of_ofRecord h dialect hupdate }

/-- A record can be inserted exactly if it is insertable, and can be written over the rows of a
query exactly if it is updatable by that query, in both dialects alike, and with the same fault
where it cannot. Where both can be done, both write the same. -/
theorem Record.written_alike (record : Record) (query : Query) (dialect : Dialect) :
    ((∃ sql, Insert.render dialect <$> Insert.ofRecord record = .ok sql) ↔ record.Insertable) ∧
    ((∃ sql, Update.render dialect <$> Update.ofRecord record query = .ok sql) ↔
      record.Updatable query) ∧
    (∀ insert update, Insert.ofRecord record = .ok insert →
      Update.ofRecord record query = .ok update → record.WrittenAlike dialect insert update) ∧
    ∀ dialect' : Dialect,
      Agree (fun _ _ => True) (Insert.render dialect <$> Insert.ofRecord record)
        (Insert.render dialect' <$> Insert.ofRecord record) ∧
      Agree (fun _ _ => True) (Update.render dialect <$> Update.ofRecord record query)
        (Update.render dialect' <$> Update.ofRecord record query) := by
  refine ⟨exists_map_eq_ok.trans Insert.ofRecord_ok_iff,
    exists_map_eq_ok.trans Update.ofRecord_ok_iff, fun _ _ => writtenAlike dialect,
    fun dialect' => ?_⟩
  exact ⟨(Agree.of_eq rfl).map fun _ _ _ => trivial, (Agree.of_eq rfl).map fun _ _ _ => trivial⟩

/-- A person whose age is forgotten, as it is inserted and as it is written over others. -/
theorem Record.written_alike_person :
    let forgetful := person.putCell "age" .null
    let query := Query.ofSteps [.filter (.compare ⟨"name", "!=", .text "x"⟩)]
    forgetful.schema.Consistent ∧ ∃ insert update, Insert.ofRecord forgetful = .ok insert ∧
      Update.ofRecord forgetful query = .ok update ∧
      insert.entries = [⟨"name", .text "\"N\\'"⟩, ⟨"age", .null⟩, ⟨"__instance_key", .text "k"⟩,
        ⟨"passport", .null⟩] ∧
      update.entries = insert.entries.filter (·.name != instanceKeyColumn) ∧
      forgetful.Insertable ∧ forgetful.Updatable query := by
  intro forgetful query
  have hconsistent : forgetful.schema.Consistent := Registry.checkSchema_eq_ok.mp rfl
  obtain ⟨hinsertable, hupdatable, halike, -⟩ := written_alike forgetful query .mariadb
  have hsame := halike _ _ rfl rfl
  exact ⟨hconsistent, _, _, rfl, rfl, rfl, hsame.without_key hconsistent,
    hinsertable.mp ⟨_, rfl⟩, hupdatable.mp ⟨_, rfl⟩⟩

end RecordMapper
