import RecordMapper.Proofs.Runs
import RecordMapper.Proofs.StoredNumber
import RecordMapper.Record

/-!
# Records as their operations make them

* `Record.Built`: the records that can be made, from an empty one, by the changes of one cell.
* `Column.Fits`, `Column.Fits.read_display`: a value of the type and length of a column is read back
  from its text.
* `Record.set_eq_ok`, `Record.read_eq_ok`, `Record.link_eq_ok`, `Record.setKey_eq_ok`: when a change
  succeeds, and what it makes.
* `Record.Sound`, `Record.Built.sound`: what a record holds fits its columns, and its peers are of
  the tables that its relations lead to.
-/

namespace RecordMapper

/-- The records that the operations on records make. -/
inductive Record.Built : Record → Prop
  | empty (schema : Schema) : Built (.empty schema)
  | set {record record' : Record} {name : String} {cell : Cell Value} :
      Built record → record.set name cell = .ok record' → Built record'
  | read {record record' : Record} {name : String} {text : Option String} :
      Built record → record.read name text = .ok record' → Built record'
  | link {record record' : Record} {key : String} {cell : Cell Record} :
      Built record → (∀ peer, cell = .present peer → Built peer) →
        record.link key cell = .ok record' → Built record'
  | withKey {record : Record} (key : Cell String) : Built record → Built (record.withKey key)
  | setKey {record record' : Record} {key : String} :
      Built record → record.setKey key = .ok record' → Built record'

/-! ## Values that fit -/

/-- A value is of the type of a column, and within its length. -/
structure Column.Fits (column : Column) (value : Value) : Prop where
  type : column.kind.accepts value = true
  length : ∀ maxLength content, column.kind = .varchar maxLength → value = .text content →
    withinLength content maxLength = true

theorem Column.checkValue_eq_ok {column : Column} {value value' : Value} :
    column.checkValue value = .ok value' ↔ column.Fits value ∧ value = value' := by
  unfold checkValue
  split
  · next htype =>
    split
    · next maxLength content hkind =>
      split
      · next hlength =>
        refine ⟨fun h => ⟨⟨htype, ?_⟩, Except.ok.inj h⟩, fun h => congrArg Except.ok h.2⟩
        rintro other _ hother ⟨⟩
        cases hkind.symm.trans hother
        exact hlength
      · next hlength => exact ⟨nofun, fun h => absurd (h.1.length _ _ hkind rfl) hlength⟩
    · next hother =>
      refine ⟨fun h => ⟨⟨htype, ?_⟩, Except.ok.inj h⟩, fun h => congrArg Except.ok h.2⟩
      exact fun maxLength content hkind hvalue => absurd hvalue (hother _ _ hkind)
  · next htype => exact ⟨nofun, fun h => absurd h.1.type htype⟩

/-- The text of a value that fits is read as this value. -/
theorem Column.Fits.read_display {column : Column} {value : Value} (h : column.Fits value) :
    column.kind.read value.display = .ok value := by
  obtain ⟨htype, hlength⟩ := h
  cases hkind : column.kind with
  | int32 | primary | uint32 =>
    rw [hkind] at htype
    exact ColumnKind.read_display (by decide) value htype
  | varchar maxLength =>
    rw [hkind] at htype
    cases value with
    | text content => rw [ColumnKind.read, Value.display, if_pos (hlength _ _ hkind rfl)]
    | int32 | uint32 => cases htype

/-- What is read from a text fits. -/
theorem Column.fits_of_read {column : Column} {text : String} {value : Value}
    (h : column.kind.read text = .ok value) : column.Fits value := by
  cases hkind : column.kind with
  | int32 | primary | uint32 =>
    rw [hkind] at h
    obtain ⟨htype, -⟩ := (ColumnKind.read_eq_ok (by decide)).mp h
    refine ⟨?_, fun maxLength _ hvarchar => nomatch hkind.symm.trans hvarchar⟩
    rw [ColumnKind.accepts, hkind, htype, beq_self_eq_true]
  | varchar maxLength =>
    rw [hkind, ColumnKind.read] at h
    split at h
    · next hlength =>
      cases h
      refine ⟨by rw [hkind]; rfl, ?_⟩
      rintro other _ hother ⟨⟩
      cases hkind.symm.trans hother
      exact hlength
    · cases h

/-- Whatever a cell holds fits its column. -/
def FieldFits (field : Column × Cell Value) : Prop :=
  ∀ value, field.2 = .present value → field.1.Fits value

theorem Column.checkCell_eq_ok {column : Column} {cell cell' : Cell Value} :
    column.checkCell cell = .ok cell' ↔ FieldFits (column, cell) ∧ cell = cell' := by
  cases cell with
  | undefined | null =>
    constructor
    · intro h
      exact ⟨nofun, Except.ok.inj h⟩
    · rintro ⟨-, rfl⟩
      rfl
  | present content =>
    rw [checkCell, Cell.mapM, map_eq_ok]
    constructor
    · rintro ⟨value, hcheck, rfl⟩
      obtain ⟨hfits, rfl⟩ := checkValue_eq_ok.mp hcheck
      exact ⟨fun other hother => Cell.present.inj hother ▸ hfits, rfl⟩
    · rintro ⟨hfits, rfl⟩
      exact ⟨content, checkValue_eq_ok.mpr ⟨hfits content rfl, rfl⟩, rfl⟩

theorem Column.fieldFits_of_read {column : Column} {text : Option String} {cell : Cell Value}
    (h : column.read text = .ok cell) : FieldFits (column, cell) := by
  intro value hvalue
  cases text with
  | none =>
    cases h
    cases hvalue
  | some text =>
    rw [read] at h
    split at h
    · next hread =>
      cases h
      cases hvalue
      exact fits_of_read hread
    · cases h

/-! ## Peers of the right table -/

theorem Relation.checkPeer_eq_ok {relation : Relation} {cell cell' : Cell Record} :
    relation.checkPeer cell = .ok cell' ↔
      (∀ peer, cell = .present peer → peer.table = relation.targetTable) ∧ cell = cell' := by
  cases cell with
  | undefined | null =>
    constructor
    · intro h
      exact ⟨nofun, Except.ok.inj h⟩
    · rintro ⟨-, rfl⟩
      rfl
  | present peer =>
    by_cases htable : peer.table = relation.targetTable
    · have hcheck : relation.checkPeer (.present peer) = .ok (.present peer) := by
        simp only [checkPeer, Cell.mapM, if_pos htable]
        rfl
      rw [hcheck]
      constructor
      · intro h
        exact ⟨fun other hother => Cell.present.inj hother ▸ htable, Except.ok.inj h⟩
      · rintro ⟨-, rfl⟩
        rfl
    · have hcheck : relation.checkPeer (.present peer) =
          .error (.peerTable relation.key relation.targetTable peer.table) := by
        simp only [checkPeer, Cell.mapM, if_neg htable]
        rfl
      rw [hcheck]
      exact ⟨nofun, fun h => absurd (h.1 peer rfl) htable⟩

/-! ## Changes of one cell -/

theorem Schema.requireColumn_eq_ok {schema : Schema} {name : String} {column : Column} :
    schema.requireColumn name = .ok column ↔ schema.column? name = some column := by
  rw [requireColumn]
  split
  · next hfound =>
    rw [hfound]
    exact ⟨fun h => congrArg some (Except.ok.inj h),
      fun h => congrArg Except.ok (Option.some.inj h)⟩
  · next hnone =>
    rw [hnone]
    exact ⟨nofun, nofun⟩

theorem Schema.requireRelation_eq_ok {schema : Schema} {key : String} {relation : Relation} :
    schema.requireRelation key = .ok relation ↔ schema.relation? key = some relation := by
  rw [requireRelation]
  cases schema.relation? key with
  | none => constructor <;> rintro ⟨⟩
  | some found => exact ⟨fun h => congrArg some (Except.ok.inj h), fun h => by cases h; rfl⟩

namespace Record

theorem set_eq_ok {record record' : Record} {name : String} {cell : Cell Value} :
    record.set name cell = .ok record' ↔
      ∃ column, record.schema.requireColumn name = .ok column ∧ FieldFits (column, cell) ∧
        record' = record.putCell name cell := by
  rw [Record.set, bind_eq_ok]
  constructor
  · rintro ⟨column, hcolumn, h⟩
    obtain ⟨checked, hchecked, h⟩ := bind_eq_ok.mp h
    obtain ⟨hfits, rfl⟩ := Column.checkCell_eq_ok.mp hchecked
    exact ⟨column, hcolumn, hfits, (Except.ok.inj h).symm⟩
  · rintro ⟨column, hcolumn, hfits, rfl⟩
    exact ⟨column, hcolumn, bind_eq_ok.mpr ⟨cell, Column.checkCell_eq_ok.mpr ⟨hfits, rfl⟩, rfl⟩⟩

theorem read_eq_ok {record record' : Record} {name : String} {text : Option String} :
    record.read name text = .ok record' ↔
      ∃ column cell, record.schema.requireColumn name = .ok column ∧
        column.read text = .ok cell ∧ record' = record.putCell name cell := by
  rw [Record.read, bind_eq_ok]
  constructor
  · rintro ⟨column, hcolumn, h⟩
    obtain ⟨cell, hcell, h⟩ := bind_eq_ok.mp h
    exact ⟨column, cell, hcolumn, hcell, (Except.ok.inj h).symm⟩
  · rintro ⟨column, cell, hcolumn, hcell, rfl⟩
    exact ⟨column, hcolumn, bind_eq_ok.mpr ⟨cell, hcell, rfl⟩⟩

theorem link_eq_ok {record record' : Record} {key : String} {cell : Cell Record} :
    record.link key cell = .ok record' ↔
      ∃ relation, record.schema.requireRelation key = .ok relation ∧
        (∀ peer, cell = .present peer → peer.table = relation.targetTable) ∧
        record' = record.putPeer key cell := by
  rw [Record.link, bind_eq_ok]
  constructor
  · rintro ⟨relation, hrelation, h⟩
    obtain ⟨checked, hchecked, h⟩ := bind_eq_ok.mp h
    obtain ⟨htable, rfl⟩ := Relation.checkPeer_eq_ok.mp hchecked
    exact ⟨relation, hrelation, htable, (Except.ok.inj h).symm⟩
  · rintro ⟨relation, hrelation, htable, rfl⟩
    exact ⟨relation, hrelation,
      bind_eq_ok.mpr ⟨cell, Relation.checkPeer_eq_ok.mpr ⟨htable, rfl⟩, rfl⟩⟩

theorem setKey_eq_ok {record record' : Record} {key : String} :
    record.setKey key = .ok record' ↔
      InstanceKey.isWellFormed key ∧ record' = record.withKey (.present key) := by
  rw [Record.setKey]
  split
  · next hform => exact ⟨fun h => ⟨hform, (Except.ok.inj h).symm⟩, fun h => congrArg _ h.2.symm⟩
  · next hform => exact ⟨nofun, fun h => absurd h.1 hform⟩

/-! ## What changes keep -/

/-- The peers of a record are of the tables that its relations lead to. -/
def Linked (record : Record) : Prop :=
  ∀ link ∈ record.links, ∀ peer, link.2 = .present peer → peer.table = link.1.targetTable

def Bare (record : Record) : Prop :=
  ∀ link ∈ record.links, link.2 = .undefined

theorem Bare.linked {record : Record} (h : record.Bare) : record.Linked := by
  intro link hlink peer hpeer
  rw [h link hlink] at hpeer
  cases hpeer

theorem bare_empty (schema : Schema) : (empty schema).Bare := by
  intro link hlink
  obtain ⟨relation, -, rfl⟩ := List.mem_map.mp hlink
  rfl

/-- What a record holds fits its columns, and its peers are of the right tables. -/
structure Sound (record : Record) : Prop where
  fits : ∀ field ∈ record.fields, FieldFits field
  linked : record.Linked

/-- A change puts the content beside the first owner that is looked for, and leaves the rest. -/
theorem mem_replaceFirst {α β : Type} {isOwner : α → Bool} {content : β} {entries : List (α × β)}
    {entry : α × β} (h : entry ∈ replaceFirst isOwner content entries) :
    entry ∈ entries ∨
      (entries.map Prod.fst).find? isOwner = some entry.1 ∧ entry.2 = content := by
  induction entries with
  | nil => cases h
  | cons first rest ih =>
    obtain ⟨owner, old⟩ := first
    rw [replaceFirst] at h
    rw [List.map_cons, List.find?_cons]
    split at h
    · next howner =>
      rcases List.mem_cons.mp h with rfl | hrest
      · rw [howner]
        exact .inr ⟨rfl, rfl⟩
      · exact .inl (List.mem_cons_of_mem _ hrest)
    · next howner =>
      rcases List.mem_cons.mp h with rfl | hrest
      · exact .inl List.mem_cons_self
      · rw [Bool.eq_false_iff.mpr howner]
        rcases ih hrest with hmem | hfound
        · exact .inl (List.mem_cons_of_mem _ hmem)
        · exact .inr hfound

namespace Sound

variable {record : Record}

theorem empty (schema : Schema) : (Record.empty schema).Sound where
  fits := by
    intro field hfield value hvalue
    obtain ⟨column, -, rfl⟩ := List.mem_map.mp hfield
    cases hvalue
  linked := (bare_empty schema).linked

theorem putCell (h : record.Sound) {name : String} {column : Column} {cell : Cell Value}
    (hcolumn : record.schema.requireColumn name = .ok column) (hcell : FieldFits (column, cell)) :
    (record.putCell name cell).Sound where
  fits := by
    intro field hfield
    rcases mem_replaceFirst hfield with hmem | ⟨hfound, hcontent⟩
    · exact h.fits field hmem
    · -- the column that was checked is the one beside which the cell was put
      have howner := Schema.requireColumn_eq_ok.mp hcolumn
      obtain rfl : column = field.1 := Option.some.inj (howner.symm.trans hfound)
      rw [← hcontent] at hcell
      exact hcell
  linked := h.linked

theorem putPeer (h : record.Sound) {key : String} {relation : Relation} {cell : Cell Record}
    (hrelation : record.schema.requireRelation key = .ok relation)
    (hcell : ∀ peer, cell = .present peer → peer.table = relation.targetTable) :
    (record.putPeer key cell).Sound where
  fits := h.fits
  linked := by
    intro link hlink peer hpeer
    rcases mem_replaceFirst hlink with hmem | ⟨hfound, hcontent⟩
    · exact h.linked link hmem peer hpeer
    · -- the relation that was checked is the one beside which the peer was put
      have howner := Schema.requireRelation_eq_ok.mp hrelation
      obtain rfl : relation = link.1 := Option.some.inj (howner.symm.trans hfound)
      exact hcell peer (hcontent.symm.trans hpeer)

theorem withKey (h : record.Sound) (key : Cell String) : (record.withKey key).Sound where
  fits := h.fits
  linked := h.linked

theorem set (h : record.Sound) {record' : Record} {name : String} {cell : Cell Value}
    (hset : record.set name cell = .ok record') : record'.Sound := by
  obtain ⟨column, hcolumn, hfits, rfl⟩ := set_eq_ok.mp hset
  exact h.putCell hcolumn hfits

theorem read (h : record.Sound) {record' : Record} {name : String} {text : Option String}
    (hread : record.read name text = .ok record') : record'.Sound := by
  obtain ⟨column, cell, hcolumn, hcell, rfl⟩ := read_eq_ok.mp hread
  exact h.putCell hcolumn (Column.fieldFits_of_read hcell)

theorem link (h : record.Sound) {record' : Record} {key : String} {cell : Cell Record}
    (hlink : record.link key cell = .ok record') : record'.Sound := by
  obtain ⟨relation, hrelation, htable, rfl⟩ := link_eq_ok.mp hlink
  exact h.putPeer hrelation htable

theorem setKey (h : record.Sound) {record' : Record} {key : String}
    (hkey : record.setKey key = .ok record') : record'.Sound := by
  obtain ⟨-, rfl⟩ := setKey_eq_ok.mp hkey
  exact h.withKey _

end Sound

theorem Built.sound {record : Record} (h : record.Built) : record.Sound := by
  induction h with
  | empty schema => exact .empty schema
  | set _ hset ih => exact ih.set hset
  | read _ hread ih => exact ih.read hread
  | link _ _ hlink ih _ => exact ih.link hlink
  | withKey key _ ih => exact ih.withKey key
  | setKey _ hkey ih => exact ih.setKey hkey

/-- What a record holds fits its columns. -/
theorem Built.fits {record : Record} (h : record.Built) :
    ∀ field ∈ record.fields, FieldFits field :=
  h.sound.fits

theorem Built.linked {record : Record} (h : record.Built) : record.Linked :=
  h.sound.linked

/-- The peers of a record that the operations make were made by them too. -/
theorem Built.peers {record : Record} (h : record.Built) :
    ∀ link ∈ record.links, ∀ peer, link.2 = .present peer → peer.Built := by
  induction h with
  | empty schema =>
    intro link hlink peer hpeer
    rw [bare_empty schema link hlink] at hpeer
    cases hpeer
  | set _ hset ih =>
    obtain ⟨column, -, -, rfl⟩ := set_eq_ok.mp hset
    exact ih
  | read _ hread ih =>
    obtain ⟨column, cell, -, -, rfl⟩ := read_eq_ok.mp hread
    exact ih
  | link _ hpeers hlink ih _ =>
    obtain ⟨relation, -, -, rfl⟩ := link_eq_ok.mp hlink
    intro link hmem peer hpeer
    rcases mem_replaceFirst hmem with hold | ⟨-, hcontent⟩
    · exact ih link hold peer hpeer
    · exact hpeers peer (hcontent.symm.trans hpeer)
  | withKey key _ ih => exact ih
  | setKey _ hkey ih =>
    obtain ⟨-, rfl⟩ := setKey_eq_ok.mp hkey
    exact ih

end Record

end RecordMapper
