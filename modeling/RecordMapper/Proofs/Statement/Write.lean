import RecordMapper.Proofs.Record
import RecordMapper.Statement.Write

/-!
# What written rows consist of

* `Record.columnEntries`, `Record.keyEntries`, `Record.peerEntries`: what a record has to write, for
  its columns, its instance key and its relations.
* `Insert.ofRecord_eq_ok`, `Update.ofRecord_eq_ok`: when a record can be written, and that it is
  these entries that are written.
-/

namespace RecordMapper

/-! ## Entries of a record -/

/-- The instance key of a peer; undefined or null where there is no peer. -/
def peerKey : Cell Record → Cell String
  | .undefined => .undefined
  | .null => .null
  | .present peer => peer.key

/-- What a statement writes for a column. -/
def entryOfField? (field : Column × Cell Value) : Option Entry :=
  if field.1.isPrimary then none else Entry.ofCell? field.1.name field.2

/-- What a statement writes for a relation. -/
def entryOfLink? (link : Relation × Cell Record) : Option Entry :=
  if link.1.ownsColumn then Entry.ofCell? link.1.key ((peerKey link.2).map .text) else none

namespace Record

def columnEntries (record : Record) : List Entry :=
  record.fields.filterMap entryOfField?

def keyEntries (record : Record) : List Entry :=
  (Entry.ofCell? instanceKeyColumn (record.key.map .text)).toList

def peerEntries (record : Record) : List Entry :=
  record.links.filterMap entryOfLink?

end Record

/-- A peer that is written has an instance key. -/
def PeerHasKey (link : Relation × Cell Record) : Prop :=
  link.1.ownsColumn → ∀ peer, link.2 = .present peer → peer.key.isPresent

/-! ## One column, one relation -/

theorem entryOfField?_eq_iff {field : Column × Cell Value} {refused : Bool} {fault : Fault}
    {found : Option Entry} :
    (if field.1.isPrimary then .ok none
      else if field.1.isRequired && refused then .error fault
      else .ok (Entry.ofCell? field.1.name field.2) : Except Fault (Option Entry)) = .ok found ↔
        (field.1.isRequired → refused = false) ∧ entryOfField? field = found := by
  rw [entryOfField?]
  by_cases hprimary : field.1.isPrimary
  · simp [hprimary, Column.isRequired]
  · by_cases hrequired : field.1.isRequired <;> cases refused <;> simp [hprimary, hrequired]

theorem Insert.fieldEntry_eq_ok {table : String} {field : Column × Cell Value}
    {found : Option Entry} :
    fieldEntry table field = .ok found ↔
      (field.1.isRequired → field.2.isPresent) ∧ entryOfField? field = found := by
  rw [fieldEntry, entryOfField?_eq_iff, Bool.not_eq_false']

theorem Update.fieldEntry_eq_ok {table : String} {field : Column × Cell Value}
    {found : Option Entry} :
    fieldEntry table field = .ok found ↔
      (field.1.isRequired → field.2.isNull = false) ∧ entryOfField? field = found :=
  entryOfField?_eq_iff

theorem Entry.ofLink?_eq_ok {link : Relation × Cell Record} {found : Option Entry} :
    ofLink? link = .ok found ↔ PeerHasKey link ∧ entryOfLink? link = found := by
  obtain ⟨relation, cell⟩ := link
  rw [ofLink?, PeerHasKey, entryOfLink?]
  by_cases howns : relation.ownsColumn
  · cases cell with
    | undefined => simp [howns, peerKey, Cell.map, ofCell?, Cell.literal?]
    | null => simp [howns, peerKey, Cell.map, ofCell?, Cell.literal?]
    | present peer =>
      cases hkey : peer.key <;>
        simp [howns, peerKey, hkey, Cell.map, ofCell?, Cell.literal?, Value.literal,
          Cell.isPresent]
  · simp [howns]

/-! ## Names of entries -/

theorem Entry.name_of_ofCell? {name : String} {cell : Cell Value} {entry : Entry}
    (h : ofCell? name cell = some entry) : entry.name = name := by
  obtain ⟨literal, -, rfl⟩ := Option.map_eq_some_iff.mp h
  rfl

theorem name_of_entryOfField? {field : Column × Cell Value} {entry : Entry}
    (h : entryOfField? field = some entry) : entry.name = field.1.name := by
  rw [entryOfField?] at h
  split at h
  · cases h
  · exact Entry.name_of_ofCell? h

theorem name_of_entryOfLink? {link : Relation × Cell Record} {entry : Entry}
    (h : entryOfLink? link = some entry) : link.1.ownsColumn ∧ entry.name = link.1.key := by
  rw [entryOfLink?] at h
  split at h
  · next howns => exact ⟨howns, Entry.name_of_ofCell? h⟩
  · cases h

namespace Record

variable {record : Record} {entry : Entry}

theorem mem_storedNames_of_columnEntries (h : entry ∈ record.columnEntries) :
    entry.name ∈ record.schema.storedNames := by
  obtain ⟨field, hfield, hentry⟩ := List.mem_filterMap.mp h
  have hcolumn : field.1 ∈ record.schema.columns := List.mem_map_of_mem hfield
  rw [name_of_entryOfField? hentry]
  exact List.mem_append_left _ (List.mem_map_of_mem hcolumn)

theorem mem_storedNames_of_keyEntries (h : entry ∈ record.keyEntries) :
    entry.name ∈ record.schema.storedNames := by
  rw [Entry.name_of_ofCell? (Option.mem_toList.mp h)]
  exact List.mem_append_right _ List.mem_cons_self

theorem mem_storedNames_of_peerEntries (h : entry ∈ record.peerEntries) :
    entry.name ∈ record.schema.storedNames := by
  obtain ⟨link, hlink, hentry⟩ := List.mem_filterMap.mp h
  obtain ⟨howns, hname⟩ := name_of_entryOfLink? hentry
  have hrelation : link.1 ∈ record.schema.relations := List.mem_map_of_mem hlink
  have howned : link.1 ∈ record.schema.ownedRelations := List.mem_filter.mpr ⟨hrelation, howns⟩
  rw [hname]
  exact List.mem_append_right _ (List.mem_cons_of_mem _ (List.mem_map_of_mem howned))

end Record

/-! ## Whole records -/

theorem Record.linkEntries_eq_ok {record : Record} {entries : List Entry} :
    record.linkEntries = .ok entries ↔
      (∀ link ∈ record.links, PeerHasKey link) ∧ record.peerEntries = entries := by
  rw [linkEntries, map_eq_ok]
  constructor
  · rintro ⟨entries?, h, rfl⟩
    obtain ⟨hkeys, rfl⟩ := (mapM_eq_ok_of_spec fun _ _ => Entry.ofLink?_eq_ok).mp h
    exact ⟨hkeys, (filterMap_id_map _ _).symm⟩
  · rintro ⟨hkeys, rfl⟩
    exact ⟨_, (mapM_eq_ok_of_spec fun _ _ => Entry.ofLink?_eq_ok).mpr ⟨hkeys, rfl⟩,
      filterMap_id_map _ _⟩

theorem Insert.keyEntry_eq_ok {record : Record} {found : Option Entry} :
    keyEntry record = .ok found ↔
      record.key ≠ .null ∧ Entry.ofCell? instanceKeyColumn (record.key.map .text) = found := by
  rw [keyEntry]
  cases record.key <;> simp [Cell.map, Entry.ofCell?, Cell.literal?, Value.literal]

theorem Insert.render_of_ne_nil (dialect : Dialect) {insert : Insert} (h : insert.entries ≠ []) :
    insert.render dialect =
      "INSERT INTO " ++ Dialect.identifier insert.table ++ " " ++
        ("(" ++ ", ".intercalate (insert.entries.map (Dialect.identifier ·.name)) ++ ") VALUES (" ++
          ", ".intercalate (insert.entries.map (dialect.literal ·.literal)) ++ ")") := by
  rw [render, if_neg (by rwa [List.isEmpty_iff])]

/-- A record can be inserted if its required columns have values, its instance key is not null, and
the peers to write have instance keys. -/
theorem Insert.ofRecord_eq_ok {record : Record} {insert : Insert} :
    ofRecord record = .ok insert ↔
      (∀ field ∈ record.fields, field.1.isRequired → field.2.isPresent) ∧ record.key ≠ .null ∧
        (∀ link ∈ record.links, PeerHasKey link) ∧
        insert = {
          table := record.table
          entries := record.columnEntries ++ record.keyEntries ++ record.peerEntries } := by
  rw [ofRecord, bind_eq_ok]
  constructor
  · rintro ⟨fields, hfields, h⟩
    obtain ⟨key, hkey, h⟩ := bind_eq_ok.mp h
    obtain ⟨links, hlinks, h⟩ := bind_eq_ok.mp h
    obtain ⟨hrequired, rfl⟩ := (mapM_eq_ok_of_spec fun _ _ => fieldEntry_eq_ok).mp hfields
    obtain ⟨hnull, rfl⟩ := keyEntry_eq_ok.mp hkey
    obtain ⟨hpeers, rfl⟩ := Record.linkEntries_eq_ok.mp hlinks
    rw [filterMap_id_map] at h
    exact ⟨hrequired, hnull, hpeers, (Except.ok.inj h).symm⟩
  · rintro ⟨hrequired, hnull, hpeers, rfl⟩
    refine ⟨_, (mapM_eq_ok_of_spec fun _ _ => fieldEntry_eq_ok).mpr ⟨hrequired, rfl⟩, ?_⟩
    refine bind_eq_ok.mpr ⟨_, keyEntry_eq_ok.mpr ⟨hnull, rfl⟩, ?_⟩
    refine bind_eq_ok.mpr ⟨_, Record.linkEntries_eq_ok.mpr ⟨hpeers, rfl⟩, ?_⟩
    rw [filterMap_id_map]
    rfl

/-- A record can be written over rows if the query lets rows be changed, no required column is null,
the peers to write have instance keys, and there is something to write. -/
theorem Update.ofRecord_eq_ok {record : Record} {query : Query} {update : Update} :
    ofRecord record query = .ok update ↔
      query.mutationFilter record.schema .update = .ok update.condition ∧
        (∀ field ∈ record.fields, field.1.isRequired → field.2.isNull = false) ∧
        (∀ link ∈ record.links, PeerHasKey link) ∧ update.table = record.table ∧
        update.entries = record.columnEntries ++ record.peerEntries ∧ update.entries ≠ [] := by
  rw [ofRecord, bind_eq_ok]
  constructor
  · rintro ⟨condition, hcondition, h⟩
    obtain ⟨fields, hfields, h⟩ := bind_eq_ok.mp h
    obtain ⟨links, hlinks, h⟩ := bind_eq_ok.mp h
    obtain ⟨hrequired, rfl⟩ := (mapM_eq_ok_of_spec fun _ _ => fieldEntry_eq_ok).mp hfields
    obtain ⟨hpeers, rfl⟩ := Record.linkEntries_eq_ok.mp hlinks
    rw [filterMap_id_map] at h
    split at h
    · cases h
    · next hentries =>
      cases h
      exact ⟨hcondition, hrequired, hpeers, rfl, rfl, hentries⟩
  · rintro ⟨hcondition, hrequired, hpeers, htable, hentries, hne⟩
    refine ⟨_, hcondition, ?_⟩
    refine bind_eq_ok.mpr
      ⟨_, (mapM_eq_ok_of_spec fun _ _ => fieldEntry_eq_ok).mpr ⟨hrequired, rfl⟩, ?_⟩
    refine bind_eq_ok.mpr ⟨_, Record.linkEntries_eq_ok.mpr ⟨hpeers, rfl⟩, ?_⟩
    rw [filterMap_id_map]
    split
    · next hempty => exact absurd (hentries.trans hempty) hne
    · cases update
      simp_all
      rfl

theorem Insert.mem_storedNames_of_ofRecord {record : Record} {insert : Insert}
    (h : ofRecord record = .ok insert) {entry : Entry} (hentry : entry ∈ insert.entries) :
    entry.name ∈ record.schema.storedNames := by
  obtain ⟨-, -, -, rfl⟩ := ofRecord_eq_ok.mp h
  rcases List.mem_append.mp hentry with hentry | hpeer
  · rcases List.mem_append.mp hentry with hcolumn | hkey
    · exact Record.mem_storedNames_of_columnEntries hcolumn
    · exact Record.mem_storedNames_of_keyEntries hkey
  · exact Record.mem_storedNames_of_peerEntries hpeer

theorem Update.mem_storedNames_of_ofRecord {record : Record} {query : Query} {update : Update}
    (h : ofRecord record query = .ok update) {entry : Entry} (hentry : entry ∈ update.entries) :
    entry.name ∈ record.schema.storedNames := by
  obtain ⟨-, -, -, -, hentries, -⟩ := ofRecord_eq_ok.mp h
  rw [hentries] at hentry
  rcases List.mem_append.mp hentry with hcolumn | hpeer
  · exact Record.mem_storedNames_of_columnEntries hcolumn
  · exact Record.mem_storedNames_of_peerEntries hpeer

end RecordMapper
