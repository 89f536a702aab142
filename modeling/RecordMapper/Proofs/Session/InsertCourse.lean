import RecordMapper.Proofs.Hydration
import RecordMapper.Proofs.Session.SelectCourse

/-!
# The course of an insertion

* `Session.Stores`: the calls of an insertion under an instance key, in their order, and the end
  that they lead to.
* `Record.SameButKeys`, `Session.insert_congr`: what is in the columns that an insertion fills anew
  does not matter to it.
* `Operation.course_of_insertRecord`: what an insertion of a record does.
-/

namespace RecordMapper

theorem Record.ReadFrom.ne_undefined {schema : Schema} {row : Row} {record : Record}
    (h : record.ReadFrom schema .empty row) : ∀ field ∈ record.fields, field.2 ≠ .undefined := by
  intro field hfield hundefined
  exact (h.fields field hfield).undefined_iff.mp hundefined (.inl rfl)

namespace Session

variable {surroundings : Surroundings}

/-! ## Insertion under a key -/

/-- Reads a row back by its key, with the peers of a record. -/
def readBack (record : Record) (key : String) : Session Record := do
  let reselect := (Select.byKey record.table instanceKeyColumn key).render (← dialect)
  match ← query (some record.table) reselect with
  | [row] =>
    let stored ← hydrate record.schema .empty .empty row
    let links ← record.links.mapM fun link => do
      return (link.1, ← lift (link.1.checkPeer link.2))
    return { stored with links }
  | rows => fail (.reselectCount record.table rows.length)

/-- What an insertion does with its new key. -/
def insertUnder (record : Record) (key : String) : Session Record := do
  let staged ← lift (record.setKey key)
  let sql := (← lift (Insert.ofRecord staged)).render (← dialect)
  execute (some record.table) sql
  readBack record key

theorem insert_eq (record : Record) : insert record = drawKey >>= insertUnder record := rfl

theorem run_read_bind {α : Type} (f : Surroundings → Session α) (world : World) :
    (read >>= f).run surroundings world = (f surroundings).run surroundings world := rfl

theorem run_drawKey (world : World) :
    drawKey.run surroundings world =
      (.ok (InstanceKey.ofNumber (surroundings.draws world.drawn)),
        { world with drawn := world.drawn + 1 }) := by
  rw [drawKey, run_get_bind, run_modify_bind, run_read_bind]
  rfl

/-- What the answer to the second call of an insertion leads to: from one row the record that is
stored, with the peers of the record that was inserted. -/
inductive ReadsBack (record : Record) : Reply → Except Halt Record → Prop
  | halted {reply : Reply} {halt : Halt} : reply.result = .error halt →
      ReadsBack record reply (.error halt)
  | count {rows : List Row} {fault : Fault} : rows.length ≠ 1 →
      fault = .reselectCount record.table rows.length → fault.kind = .runtime →
      ReadsBack record (.done rows) (.error (.fault fault))
  | unreadable {row : Row} {fault : Fault} : record.schema.Unreadable .empty row fault →
      ReadsBack record (.done [row]) (.error (.fault fault))
  | stored {row : Row} {stored : Record} : stored.ReadFrom record.schema .empty row →
      stored.links = record.links → (∀ field ∈ stored.fields, field.2 ≠ .undefined) →
      ReadsBack record (.done [row]) (.ok stored)

/-- What an insertion does under a key: it sends its statement if there is one, and if that is done
it asks for the rows of the same key. -/
inductive Stores (catalogue : Catalogue) (record : Record) (key : String) :
    List Exchange → Except Halt Record → Prop
  | invalid {fault : Fault} : Insert.ofRecord (record.withKey (.present key)) = .error fault →
      Stores catalogue record key [] (.error (.fault fault))
  | halted {insert : Insert} {reply : Reply} {halt : Halt} :
      Insert.ofRecord (record.withKey (.present key)) = .ok insert → reply.result = .error halt →
      Stores catalogue record key [⟨.execute (insert.render catalogue.dialect), reply⟩]
        (.error halt)
  | inserted {insert : Insert} {rows : List Row} {reply : Reply} {result : Except Halt Record} :
      Insert.ofRecord (record.withKey (.present key)) = .ok insert → ReadsBack record reply result →
      Stores catalogue record key [⟨.execute (insert.render catalogue.dialect), .done rows⟩,
        ⟨.byKey catalogue.dialect record.table instanceKeyColumn key, reply⟩] result

/-- Where no relation is asked for, a row is read without calls. -/
theorem traces_hydrate_bare (schema : Schema) (columns : NameSet) (row : Row) :
    Traces surroundings (hydrate schema columns .empty row) fun sent result => sent = [] ∧
      ((∃ fault, schema.Unreadable columns row fault ∧ result = .error (.fault fault)) ∨
        ∃ record, record.ReadFrom schema columns row ∧ result = .ok record) := by
  cases hrow : Record.ofRow schema columns row with
  | error fault =>
    rw [hydrate, hrow]
    exact traces_fail ⟨rfl, .inl ⟨fault, Record.unreadable_of_ofRow hrow, rfl⟩⟩
  | ok record =>
    intro world
    rw [TracesFrom, run_hydrate_of_ofRow hrow]
    exact ⟨[], (List.append_nil _).symm, trivial, rfl, .inr ⟨record,
      Record.readFrom_of_ofRow hrow, rfl⟩⟩

theorem traces_readBack {record : Record} (hlinked : record.Linked) (key : String) :
    Traces surroundings (readBack record key) fun sent result =>
      ∃ reply, sent =
          [⟨.byKey surroundings.catalogue.dialect record.table instanceKeyColumn key, reply⟩] ∧
        ReadsBack record reply result := by
  apply traces_dialect_bind
  dsimp only
  refine traces_bind (traces_query _ _) ?_ ?_
  · rintro sent halt ⟨reply, rfl, hresult⟩
    rw [Call.query_byKey]
    exact ⟨reply, rfl, .halted hresult.symm⟩
  · rintro sent rows ⟨reply, rfl, hresult⟩
    obtain rfl := Reply.eq_done hresult.symm
    rw [Call.query_byKey]
    split
    · next row =>
      rw [mapM_checkPeer hlinked]
      refine traces_bind (traces_hydrate_bare _ _ row) ?_ ?_
      · rintro sent halt ⟨rfl, ⟨fault, hfault, hhalt⟩ | ⟨stored, -, hstored⟩⟩
        · cases hhalt
          exact ⟨_, rfl, .unreadable hfault⟩
        · cases hstored
      · rintro sent stored ⟨rfl, ⟨fault, -, hfault⟩ | ⟨stored, hread, hstored⟩⟩
        · cases hfault
        · cases hstored
          have hkept : ({ stored with links := record.links } : Record).ReadFrom record.schema
            .empty row := hread.with_links rfl
          exact traces_pure ⟨_, rfl, .stored hkept rfl hkept.ne_undefined⟩
    · next hone =>
      have hcount : rows.length ≠ 1 := fun hlength => by
        obtain ⟨row, rfl⟩ := List.length_eq_one_iff.mp hlength
        exact hone row rfl
      exact traces_fail ⟨_, rfl, .count hcount rfl rfl⟩

theorem traces_insertUnder {record : Record} (hlinked : record.Linked) {key : String}
    (hkey : InstanceKey.isWellFormed key = true) :
    Traces surroundings (insertUnder record key) (Stores surroundings.catalogue record key) := by
  rw [insertUnder, Record.setKey_eq_ok.mpr ⟨hkey, rfl⟩, lift, pure_bind]
  refine traces_lift_bind (fun insert hinsert => ?_) fun fault hfault => .invalid hfault
  apply traces_dialect_bind
  refine traces_bind (traces_execute _ _) ?_ ?_
  · rintro sent halt ⟨reply, rfl, hresult⟩
    refine .halted hinsert ?_
    cases hreply : reply.result with
    | error halt' =>
      rw [hreply] at hresult
      cases hresult
      rfl
    | ok rows =>
      rw [hreply] at hresult
      cases hresult
  · rintro sent _ ⟨reply, rfl, hresult⟩
    obtain ⟨rows, hrows, -⟩ := map_eq_ok.mp hresult.symm
    obtain rfl := Reply.eq_done hrows
    refine traces_mono (traces_readBack hlinked key) ?_
    rintro _ result ⟨reply, rfl, hback⟩
    exact .inserted hinsert hback

end Session

/-! ## Columns that are filled anew -/

/-- Records of one table that differ in nothing but the instance key and the primary column. -/
structure Record.SameButKeys (record record' : Record) : Prop where
  table : record.table = record'.table
  fields : List.Forall₂ (fun field field' => field.1 = field'.1 ∧
    (field.1.isPrimary = false → field.2 = field'.2)) record.fields record'.fields
  links : record.links = record'.links

namespace Record.SameButKeys

variable {record record' : Record}

theorem schema_eq (h : record.SameButKeys record') : record.schema = record'.schema := by
  have hcolumns : record.fields.map Prod.fst = record'.fields.map Prod.fst :=
    forall₂_eq_iff_map_eq.mp (h.fields.imp fun _ _ hfield => hfield.1)
  rw [Record.schema, Record.schema, h.table, h.links, hcolumns]

/-- Nothing is written for the primary column. -/
theorem ofRecord_withKey (h : record.SameButKeys record') (key : Cell String) :
    Insert.ofRecord (record.withKey key) = Insert.ofRecord (record'.withKey key) := by
  have hentry : ∀ field field' : Column × Cell Value, field.1 = field'.1 ∧
      (field.1.isPrimary = false → field.2 = field'.2) →
        Insert.fieldEntry record'.table field = Insert.fieldEntry record'.table field' := by
    rintro ⟨column, cell⟩ ⟨_, cell'⟩ ⟨rfl, hcell⟩
    cases hprimary : column.isPrimary with
    | true => rw [Insert.fieldEntry, Insert.fieldEntry, if_pos hprimary, if_pos hprimary]
    | false =>
      obtain rfl : cell = cell' := hcell hprimary
      rfl
  have hfields := mapM_eq_of_forall₂ (h.fields.imp hentry)
  simp only [Insert.ofRecord, Record.withKey, Insert.keyEntry, Record.linkEntries, h.table,
    h.links, hfields]

end Record.SameButKeys

namespace Session

variable {record record' : Record}

theorem fail_bind {α β : Type} (fault : Fault) (f : α → Session β) :
    (fail fault >>= f) = fail fault := rfl

theorem insertUnder_congr (h : record.SameButKeys record') (key : String) :
    insertUnder record key = insertUnder record' key := by
  have hback : readBack record key = readBack record' key := by
    rw [readBack, readBack, h.table, h.schema_eq, h.links]
  rw [insertUnder, insertUnder, Record.setKey, Record.setKey]
  split
  · rw [lift, lift, pure_bind, pure_bind, h.ofRecord_withKey, h.table, hback]
  · rw [lift, fail_bind, fail_bind]

/-- An insertion draws a key of its own, and leaves the primary column to the store. -/
theorem insert_congr (h : record.SameButKeys record') : insert record = insert record' := by
  rw [insert_eq, insert_eq, funext (insertUnder_congr h)]

end Session

namespace Operation

open Session

variable {ι : Type} {surroundings : Surroundings}

theorem run_discard_requireRecord {record : Record}
    (hschema : record.schema ∈ surroundings.catalogue.schemas) (world : World) :
    (discard (requireRecord record)).run surroundings world = (.ok (), world) := by
  have hrequire : (requireRecord record).run surroundings world =
      (lift (surroundings.catalogue.requireLayout record.schema)).run surroundings world := rfl
  rw [run_discard, hrequire, Catalogue.requireLayout_eq_ok.mpr ⟨hschema, rfl⟩]
  rfl

theorem run_insertRecord_congr (family : ι → EntityDecl ι) {record record' : Record}
    (h : record.SameButKeys record') :
    (insertRecord record).run family = (insertRecord record').run family := by
  rw [run, run, requireRecord, requireRecord, h.schema_eq, h.table, insert_congr h]

/-- What an insertion of a record does in an open connection. It is the same for all records that
differ in nothing but the instance key and the primary column. -/
theorem course_of_insertRecord (family : ι → EntityDecl ι) {record : Record} (hbuilt : record.Built)
    (hschema : record.schema ∈ surroundings.catalogue.schemas) {world : World}
    (hopen : world.isClosed = false) (hsound : world.isPoisoned = false) :
    (∃ sent result,
      (((insertRecord record).run family).run surroundings world).1 = Answer.record <$> result ∧
      (((insertRecord record).run family).run surroundings world).2.exchanges =
        world.exchanges ++ sent ∧
      Replied surroundings.store world.exchanges sent ∧
      Stores surroundings.catalogue record (InstanceKey.ofNumber (surroundings.draws world.drawn))
        sent result) ∧
    ∀ record', record.SameButKeys record' →
      ((insertRecord record').run family).run surroundings world =
        ((insertRecord record).run family).run surroundings world := by
  refine ⟨?_, fun record' h => by rw [run_insertRecord_congr family h]⟩
  have hform := InstanceKey.isWellFormed_ofNumber (surroundings.draws world.drawn)
  have hunder : ∀ key, InstanceKey.isWellFormed key = true → Traces surroundings
      (insertUnder record key >>= fun stored => pure (.record stored) : Session (Answer ι))
      fun sent answer => ∃ result, answer = Answer.record <$> result ∧
        Stores surroundings.catalogue record key sent result := fun key hform =>
    traces_bind_pure (traces_mono (traces_insertUnder hbuilt.linked hform)
      fun sent result h => ⟨result, rfl, h⟩)
  have hstores : TracesFrom surroundings world
      (do
        discard (requireRecord record)
        return Answer.record (← insert record) : Session (Answer ι)) fun sent answer =>
          ∃ result, answer = Answer.record <$> result ∧ Stores surroundings.catalogue record
            (InstanceKey.ofNumber (surroundings.draws world.drawn)) sent result := by
    rw [TracesFrom, run_bind, run_discard_requireRecord hschema]
    dsimp only
    rw [insert_eq, bind_assoc, run_bind, run_drawKey]
    generalize InstanceKey.ofNumber (surroundings.draws world.drawn) = key at hform ⊢
    exact hunder key hform { world with drawn := world.drawn + 1 }
  obtain ⟨sent, hsent, hreplied, result, hresult, hcourse⟩ := hstores.guarded hopen hsound
  exact ⟨sent, result, hresult, hsent, hreplied, hcourse⟩

/-- A store that takes every statement, and has one row. -/
def personSurroundings : Surroundings where
  catalogue := ⟨.sqlite, Registry.population.schemas, rfl⟩
  store := fun _ call =>
    match call with
    | .query _ => .done [⟨[("id", some "7"), ("name", some "\"N\\'"), ("age", none),
        ("__instance_key", some "00000000-0000-0000-0000-00000000002a")]⟩]
    | _ => .done []
  draws := fun _ => 42

def recordOf? : Except Halt (Answer ι) → Option Record
  | .ok (.record stored) => some stored
  | _ => none

theorem recordOf?_eq_some {result : Except Halt (Answer ι)} {stored : Record} :
    recordOf? result = some stored ↔ result = .ok (.record stored) := by
  rcases result with halt | answer
  · exact ⟨nofun, nofun⟩
  · cases answer with
    | record found =>
      rw [recordOf?, Option.some.injEq, Except.ok.injEq, Answer.record.injEq]
    | _ => exact ⟨nofun, nofun⟩

/-- The person is stored under a new key. Its own key and number do not matter. -/
theorem course_of_insertRecord_person :
    let numbered := (person.putCell "id" (.present (.uint32 3))).withKey .undefined
    let stored := (person.stored 7).withKey (.present "00000000-0000-0000-0000-00000000002a")
    (∃ sent, sent.map (·.call) =
        [.execute ("INSERT INTO `person` (`name`, `__instance_key`, `passport`) VALUES " ++
          "('\"N\\''', '00000000-0000-0000-0000-00000000002a', NULL)"),
        .query ("SELECT * FROM `person` WHERE " ++
          "(`__instance_key` = '00000000-0000-0000-0000-00000000002a')")] ∧
      Replied personSurroundings.store [] sent ∧
      Stores personSurroundings.catalogue person "00000000-0000-0000-0000-00000000002a" sent
        (.ok { stored with links := person.links })) ∧
    ((insertRecord numbered).run users).run personSurroundings {} =
      ((insertRecord person).run users).run personSurroundings {} := by
  intro numbered stored
  have hschema : person.schema ∈ personSurroundings.catalogue.schemas := List.mem_cons_self
  have hkey : InstanceKey.ofNumber (personSurroundings.draws 0) =
      "00000000-0000-0000-0000-00000000002a" := by decide +kernel
  have hstored : (((insertRecord person).run users).run personSurroundings {}).1 =
      .ok (.record { stored with links := person.links }) :=
    recordOf?_eq_some.mp (by decide +kernel)
  have hcalls : (((insertRecord person).run users).run personSurroundings {}).2.exchanges.map
      (·.call) =
        [.execute ("INSERT INTO `person` (`name`, `__instance_key`, `passport`) VALUES " ++
          "('\"N\\''', '00000000-0000-0000-0000-00000000002a', NULL)"),
        .query ("SELECT * FROM `person` WHERE " ++
          "(`__instance_key` = '00000000-0000-0000-0000-00000000002a')")] := by
    decide +kernel
  have hnumbered : person.SameButKeys numbered := by
    refine ⟨rfl, .cons ⟨rfl, nofun⟩ (List.forall₂_same.mpr fun _ _ => ⟨rfl, fun _ => rfl⟩), rfl⟩
  obtain ⟨⟨sent, result, hresult, hsent, hreplied, hstores⟩, hsame⟩ :=
    @course_of_insertRecord _ personSurroundings users person built_person hschema {} rfl rfl
  rw [hstored] at hresult
  obtain ⟨_, rfl, hrecord⟩ := map_eq_ok.mp hresult.symm
  obtain rfl := Answer.record.inj hrecord
  exact ⟨⟨sent, (congrArg (List.map (·.call)) hsent).symm.trans hcalls, hreplied, hkey ▸ hstores⟩,
    hsame numbered hnumbered⟩

end Operation

end RecordMapper
