import RecordMapper.Proofs.Hydration
import RecordMapper.Proofs.Statement.Change
import RecordMapper.Proofs.Statement.Structure

/-!
# What the texts of writes determine

* `Value.eq_of_literal`: values of one type are told apart by their literals.
* `Record.WritesAlike`: records that agree on all that a statement writes for columns and relations.
* `Record.writesAlike_of_entries`: records that have the same entries agree in this way.
* `Catalogue.writes_determined`: what the texts of insertions and of changes determine.

A record and its entries are two lists of different lengths, since nothing is written for what was
not set. So its parts are compared by name: in a consistent schema each name has one owner.
-/

namespace RecordMapper

/-! ## Literals -/

theorem Value.eq_of_literal {value value' : Value} (htype : value.type = value'.type)
    (h : value.literal = value'.literal) : value = value' := by
  cases value with
  | int32 number =>
    cases value' with
    | int32 number' => rw [Int32.toInt_inj.mp (Literal.integer.inj h)]
    | uint32 | text => cases htype
  | uint32 number =>
    cases value' with
    | uint32 number' => rw [UInt32.toNat_inj.mp (Int.ofNat.inj (Literal.integer.inj h))]
    | int32 | text => cases htype
  | text content =>
    cases value' with
    | text content' => rw [Literal.text.inj h]
    | int32 | uint32 => cases htype

namespace Cell

/-- Cells of one type are told apart by what is written for them. -/
theorem eq_of_literal? {type : ValueType} {cell cell' : Cell Value}
    (htype : ∀ value, cell = .present value → value.type = type)
    (htype' : ∀ value, cell' = .present value → value.type = type)
    (h : cell.literal? = cell'.literal?) : cell = cell' := by
  cases cell with
  | undefined =>
    cases cell' with
    | undefined => rfl
    | null | present => cases h
  | null =>
    cases cell' with
    | null => rfl
    | undefined => cases h
    | present value => exact absurd (Option.some.inj h).symm value.literal_ne_null
  | present value =>
    cases cell' with
    | present value' =>
      have hsame := (htype value rfl).trans (htype' value' rfl).symm
      rw [Value.eq_of_literal hsame (Option.some.inj h)]
    | undefined => cases h
    | null => exact absurd (Option.some.inj h) value.literal_ne_null

end Cell

theorem Entry.literal?_of_ofCell? {name : String} {cell cell' : Cell Value}
    (h : ofCell? name cell = ofCell? name cell') : cell.literal? = cell'.literal? :=
  Option.map_injective (fun _ _ hsame => (Entry.mk.inj hsame).2) h

theorem FieldFits.eq_of_ofCell? {column : Column} {cell cell' : Cell Value}
    (hfits : FieldFits (column, cell)) (hfits' : FieldFits (column, cell')) {name : String}
    (h : Entry.ofCell? name cell = Entry.ofCell? name cell') : cell = cell' :=
  Cell.eq_of_literal? (fun value hvalue => beq_iff_eq.mp (hfits value hvalue).type)
    (fun value hvalue => beq_iff_eq.mp (hfits' value hvalue).type) (Entry.literal?_of_ofCell? h)

theorem Entry.eq_of_ofCell?_text {name : String} {cell cell' : Cell String}
    (h : ofCell? name (cell.map .text) = ofCell? name (cell'.map .text)) : cell = cell' := by
  have htext : ∀ content : Cell String, ∀ value, content.map Value.text = .present value →
      value.type = .text := by
    rintro (_ | _ | content) value hvalue <;> cases hvalue
    rfl
  have hsame := Cell.eq_of_literal? (htext cell) (htext cell') (literal?_of_ofCell? h)
  rcases Cell.map_eq_map hsame with ⟨rfl, rfl⟩ | ⟨rfl, rfl⟩ | ⟨text, text', rfl, rfl, hcontent⟩
  · rfl
  · rfl
  · rw [Value.text.inj hcontent]

/-! ## Records that write the same -/

/-- Records that agree on each column but the primary one, and on what each relation with a column
of its own leads to, as far as it is written: nothing, null, or the instance key of a peer. -/
structure Record.WritesAlike (record record' : Record) : Prop where
  columns : List.Forall₂ (fun field field' => field.1 = field'.1 ∧
    (field.1.isPrimary = false → field.2 = field'.2)) record.fields record'.fields
  relations : List.Forall₂ (fun link link' => link.1 = link'.1 ∧
    (link.1.ownsColumn → link.2.map Record.key = link'.2.map Record.key)) record.links record'.links

/-- What a relation leads to is known from what is written for it. -/
theorem PeerHasKey.map_key {link : Relation × Cell Record} (h : PeerHasKey link)
    (howns : link.1.ownsColumn) : link.2.map Record.key = (peerKey link.2).map .present := by
  obtain ⟨relation, cell⟩ := link
  cases cell with
  | undefined | null => rfl
  | present peer =>
    have hpresent : peer.key.isPresent := h howns peer rfl
    rw [peerKey, Cell.map]
    cases hkey : peer.key with
    | present key => rfl
    | undefined | null =>
      rw [hkey] at hpresent
      cases hpresent

namespace Record

variable {record record' : Record} {keys keys' : List Entry}

/-- Records of one layout that have the same entries agree on all that is written. -/
theorem writesAlike_of_entries (h : record.schema.Consistent)
    (hschema : record'.schema = record.schema)
    (hfits : ∀ field ∈ record.fields, FieldFits field)
    (hfits' : ∀ field ∈ record'.fields, FieldFits field)
    (hpeers : ∀ link ∈ record.links, PeerHasKey link)
    (hpeers' : ∀ link ∈ record'.links, PeerHasKey link)
    (hkeys : ∀ entry ∈ keys, entry.name = instanceKeyColumn)
    (hkeys' : ∀ entry ∈ keys', entry.name = instanceKeyColumn)
    (hentries : record.columnEntries ++ keys ++ record.peerEntries =
      record'.columnEntries ++ keys' ++ record'.peerEntries) :
    record.WritesAlike record' := by
  have h' : record'.schema.Consistent := hschema ▸ h
  have hcolumns : record.fields.map Prod.fst = record'.fields.map Prod.fst :=
    (congrArg Schema.columns hschema).symm
  have hrelations : record.links.map Prod.fst = record'.links.map Prod.fst :=
    (congrArg Schema.relations hschema).symm
  constructor
  · refine forall₂_of_map_eq hcolumns ?_
    rintro ⟨column, cell⟩ hfield ⟨_, cell'⟩ hfield' rfl
    refine ⟨rfl, fun hprimary => ?_⟩
    have hwritten := find?_field h hkeys hfield
    rw [hentries, find?_field h' hkeys' hfield', entryOfField?, entryOfField?, hprimary] at hwritten
    exact (hfits _ hfield).eq_of_ofCell? (hfits' _ hfield') hwritten.symm
  · refine forall₂_of_map_eq hrelations ?_
    rintro ⟨relation, cell⟩ hlink ⟨_, cell'⟩ hlink' rfl
    refine ⟨rfl, fun howns => ?_⟩
    have hwritten := find?_link h hkeys hlink
    rw [hentries, find?_link h' hkeys' hlink', entryOfLink?, entryOfLink?, if_pos howns,
      if_pos howns] at hwritten
    rw [(hpeers _ hlink).map_key howns, (hpeers' _ hlink').map_key howns,
      Entry.eq_of_ofCell?_text hwritten]

end Record

/-- Queries that ask for the same condition differ in the tags of integers only. -/
theorem Query.predicate_similar {schema : Schema} {query query' : Query}
    {condition : Option Condition} (h : query.condition schema = .ok condition)
    (h' : query'.condition schema = .ok condition) :
    Option.Rel (Predicate.Similar fun value value' => value.literal = value'.literal)
      query.predicate query'.predicate := by
  rw [Query.condition] at h h'
  split at h
  · next predicate hpredicate =>
    obtain ⟨found, hcheck, rfl⟩ := map_eq_ok.mp h
    split at h'
    · next predicate' hpredicate' =>
      obtain ⟨found', hcheck', hsame⟩ := map_eq_ok.mp h'
      cases hsame
      rw [hpredicate, hpredicate']
      exact .some (Predicate.similar_of_check hcheck hcheck')
    · cases h'
  · next hpredicate =>
    cases h
    split at h'
    · obtain ⟨_, -, hsame⟩ := map_eq_ok.mp h'
      cases hsame
    · next hpredicate' =>
      rw [hpredicate, hpredicate']
      exact .none

/-! ## Statements that write the same -/

section Determined

variable {record record' : Record} (hquotable : record.schema.NamesQuotable) (dialect : Dialect)

include hquotable

theorem Insert.ofText?_of_ofRecord {insert : Insert} (h : ofRecord record = .ok insert) :
    ofText? dialect (insert.render dialect) = some insert := by
  have htable : insert.table = record.table := by
    obtain ⟨-, -, -, rfl⟩ := ofRecord_eq_ok.mp h
    rfl
  refine ofText?_render dialect (htable ▸ hquotable.table) fun entry hentry => ?_
  exact hquotable.storedNames _ (mem_storedNames_of_ofRecord h hentry)

theorem Update.ofText?_of_ofRecord {query : Query} {update : Update}
    (h : ofRecord record query = .ok update) :
    ofText? dialect (update.render dialect) = some update := by
  obtain ⟨hfilter, -, -, htable, -, hne⟩ := ofRecord_eq_ok.mp h
  have hcondition := Query.condition_of_mutationFilter hfilter
  refine ofText?_render dialect (htable ▸ hquotable.table) (fun entry hentry => ?_) hne ?_
  · exact hquotable.storedNames _ (mem_storedNames_of_ofRecord h hentry)
  · exact fun found hfound => Query.quotable_of_condition hquotable hcondition found hfound

variable (hconsistent : record.schema.Consistent) (hschema : record'.schema = record.schema)
  (hbuilt : record.Built) (hbuilt' : record'.Built)

include hconsistent hschema hbuilt hbuilt'

/-- Records whose insertions have one text write the same, instance keys included. -/
theorem Insert.writesAlike_of_render {insert insert' : Insert} (h : ofRecord record = .ok insert)
    (h' : ofRecord record' = .ok insert')
    (htext : insert.render dialect = insert'.render dialect) :
    record.WritesAlike record' ∧ record.key = record'.key := by
  have hread := ofText?_of_ofRecord hquotable dialect h
  rw [htext, ofText?_of_ofRecord (hschema ▸ hquotable) dialect h'] at hread
  obtain rfl := Option.some.inj hread
  obtain ⟨-, -, hpeers, hinsert⟩ := ofRecord_eq_ok.mp h
  obtain ⟨-, -, hpeers', hinsert'⟩ := ofRecord_eq_ok.mp h'
  have hentries := (Insert.mk.inj (hinsert.symm.trans hinsert')).2
  constructor
  · exact Record.writesAlike_of_entries hconsistent hschema hbuilt.fits hbuilt'.fits hpeers hpeers'
      Record.keyEntries_named Record.keyEntries_named hentries
  · have hkey := Record.find?_key hconsistent
    rw [hentries, Record.find?_key (hschema ▸ hconsistent)] at hkey
    exact (Entry.eq_of_ofCell?_text hkey).symm

/-- Records and queries whose changes have one text write the same to the rows of one condition. -/
theorem Update.writesAlike_of_render {query query' : Query} {update update' : Update}
    (h : ofRecord record query = .ok update) (h' : ofRecord record' query' = .ok update')
    (htext : update.render dialect = update'.render dialect) :
    record.WritesAlike record' ∧
      Option.Rel (Predicate.Similar fun value value' => value.literal = value'.literal)
        query.predicate query'.predicate := by
  have hread := ofText?_of_ofRecord hquotable dialect h
  rw [htext, ofText?_of_ofRecord (hschema ▸ hquotable) dialect h'] at hread
  obtain rfl := Option.some.inj hread
  obtain ⟨hfilter, -, hpeers, -, hentries, -⟩ := ofRecord_eq_ok.mp h
  obtain ⟨hfilter', -, hpeers', -, hentries', -⟩ := ofRecord_eq_ok.mp h'
  constructor
  · have hnone : ∀ entry ∈ ([] : List Entry), entry.name = instanceKeyColumn := by simp
    refine Record.writesAlike_of_entries hconsistent hschema hbuilt.fits hbuilt'.fits hpeers hpeers'
      hnone hnone ?_
    rw [List.append_nil, List.append_nil, ← hentries, ← hentries']
  · rw [hschema] at hfilter'
    exact Query.predicate_similar (Query.condition_of_mutationFilter hfilter)
      (Query.condition_of_mutationFilter hfilter')

end Determined

/-- In a table that was validated, the text of an insertion determines all that it writes of a
record, and the text of a change determines all that it writes and the rows that it is for, up to
the tags of integers. -/
theorem Catalogue.writes_determined (catalogue : Catalogue) {schema : Schema}
    (hschema : schema ∈ catalogue.schemas) (dialect : Dialect) {record record' : Record}
    (hbuilt : record.Built) (hbuilt' : record'.Built) (hrecord : record.schema = schema)
    (hrecord' : record'.schema = schema) :
    (∀ insert insert', Insert.ofRecord record = .ok insert →
      Insert.ofRecord record' = .ok insert' →
        insert.render dialect = insert'.render dialect →
          record.WritesAlike record' ∧ record.key = record'.key) ∧
    ∀ query query' update update', Update.ofRecord record query = .ok update →
      Update.ofRecord record' query' = .ok update' →
        update.render dialect = update'.render dialect →
          record.WritesAlike record' ∧
            Option.Rel (Predicate.Similar fun value value' => value.literal = value'.literal)
              query.predicate query'.predicate := by
  subst hrecord
  have hquotable := catalogue.consistent.quotable hschema
  have hconsistent := catalogue.consistent.each _ hschema
  constructor
  · intro insert insert' h h' htext
    exact Insert.writesAlike_of_render hquotable dialect hconsistent hrecord' hbuilt hbuilt' h h'
      htext
  · intro query query' update update' h h' htext
    exact Update.writesAlike_of_render hquotable dialect hconsistent hrecord' hbuilt hbuilt' h h'
      htext

/-- The person of the same name, which has a number already. -/
def numberedPerson : Record :=
  person.putCell "id" (.present (.uint32 5))

theorem built_numberedPerson : numberedPerson.Built := by
  have hset : person.set "id" (.present (.uint32 5)) = .ok numberedPerson := rfl
  exact built_person.set hset

theorem Catalogue.writes_determined_person :
    (person.Built ∧ numberedPerson.Built ∧ numberedPerson ≠ person) ∧
      (∃ insert, Insert.ofRecord person = .ok insert ∧ Insert.ofRecord numberedPerson = .ok insert ∧
        person.WritesAlike numberedPerson ∧ person.key = numberedPerson.key) ∧
      ∃ update, Update.ofRecord person
          (.ofSteps [.filter (.compare ⟨"age", "<", .int32 7⟩)]) = .ok update ∧
        Update.ofRecord numberedPerson
          (.ofSteps [.filter (.compare ⟨"age", "<", .uint32 7⟩)]) = .ok update ∧
        Predicate.Similar (fun value value' => value.literal = value'.literal)
          (.compare ⟨"age", "<", .int32 7⟩) (.compare ⟨"age", "<", .uint32 7⟩) := by
  obtain ⟨hinsert, hupdate⟩ := Catalogue.writes_determined
    ⟨.mariadb, Registry.population.schemas, rfl⟩ List.mem_cons_self .mariadb built_person
    built_numberedPerson rfl rfl
  have hother : numberedPerson ≠ person := fun h => absurd (congrArg Record.fields h) (by decide)
  refine ⟨⟨built_person, built_numberedPerson, hother⟩, ⟨_, rfl, rfl, ?_⟩, _, rfl, rfl, ?_⟩
  · exact hinsert _ _ rfl rfl rfl
  · obtain ⟨-, ⟨hsimilar⟩⟩ := hupdate (.ofSteps [.filter (.compare ⟨"age", "<", .int32 7⟩)])
      (.ofSteps [.filter (.compare ⟨"age", "<", .uint32 7⟩)]) _ _ rfl rfl rfl
    exact hsimilar

end RecordMapper
