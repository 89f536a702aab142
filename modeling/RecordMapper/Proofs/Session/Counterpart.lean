import RecordMapper.Proofs.Session.Failure
import RecordMapper.Proofs.Session.Typed

/-!
# Operations on entities and on records

* `Operation.Counterpart`: an operation on entities, and the one on records that it comes down to.
* `Operation.Counterpart.run_eq`: both run in the same way, but that the answer is read as entities at
  the end.
* `Operation.follows_counterpart`: what this says of the calls, the results and the events.
-/

namespace RecordMapper

variable {α β ι : Type}

/-! ## Results that are read at the end -/

namespace Session

variable {surroundings : Surroundings}

theorem lift_bind (result : Except Fault α) (f : α → Except Fault β) :
    lift (result >>= f) = lift result >>= fun a => lift (f a) := by
  cases result with
  | ok a => exact (pure_bind a fun a => lift (f a)).symm
  | error fault => rfl

theorem lift_map (f : α → β) (result : Except Fault α) :
    lift (f <$> result) = lift result >>= fun a => pure (f a) := by
  cases result with
  | ok a => exact (pure_bind a fun a => pure (f a)).symm
  | error fault => rfl

/-- Reading the members one by one stops at the first that cannot be read. -/
theorem mapM_lift (f : α → Except Fault β) (xs : List α) :
    xs.mapM (fun x => lift (f x)) = lift (xs.mapM f) := by
  induction xs with
  | nil => rfl
  | cons x xs ih =>
    rw [List.mapM_cons, List.mapM_cons, lift_bind, ih]
    refine bind_congr fun first => ?_
    rw [lift_bind]
    rfl

/-- What comes of a run whose result is read at the end, within an operation of this name. -/
def readEnd (name : String) (table : Option String) (f : α → Except Fault β) :
    Except Halt α × World → Except Halt β × World
  | (.error halt, world) => (.error halt, world)
  | (.ok a, world) =>
    match f a with
    | .ok b => (.ok b, world)
    | .error fault => (.error (.fault fault),
        { world with events := world.events ++ [.operationFailed name table fault] })

/-- What is read from a result at the end of an operation adds no more than the event of its
failure. -/
theorem run_guarded_of_reads {x : Session β} {y : Session α} {f : α → Except Fault β}
    (h : ReaderT.run x surroundings = ReaderT.run (y >>= fun a => lift (f a)) surroundings)
    (name : String) (table : Option String) (world : World) :
    (guarded name table x).run surroundings world =
      readEnd name table f ((guarded name table y).run surroundings world) := by
  have hrun : x.run surroundings world = (y >>= fun a => lift (f a)).run surroundings world :=
    congrArg (fun ended => StateT.run (ExceptT.run ended) world) h
  rw [run_guarded, run_guarded]
  -- where the connection refuses the operation, there is nothing to read
  cases hopen : world.isClosed with
  | true =>
    rw [run_withStore_of_closed hopen, run_withStore_of_closed hopen]
    rfl
  | false =>
    cases hsound : world.isPoisoned with
    | true =>
      rw [run_withStore_of_poisoned hopen hsound, run_withStore_of_poisoned hopen hsound]
      rfl
    | false =>
      rw [run_withStore hopen hsound, run_withStore hopen hsound, hrun, run_bind]
      rcases y.run surroundings world with ⟨(fault | _) | a, world'⟩
      · rfl
      · rfl
      · dsimp only [readEnd]
        cases f a <;> rfl

end Session

/-- The answer to an operation on records, read as entities of a type. Of several records the first
that cannot be read gives the fault. -/
def Answer.read (family : ι → EntityDecl ι) (type : ι) : Answer ι → Except Fault (Answer ι)
  | .record stored => .entity <$> Entity.ofRecord family stored type
  | .records found => .entities <$> found.mapM (Entity.ofRecord family · type)
  | answer => .ok answer

namespace Operation

open Session

/-- An operation on entities of a type, and the one on records that does the same. -/
inductive Counterpart (family : ι → EntityDecl ι) : ι → Operation ι → Operation ι → Prop
  | insert {entity : Entity ι} {record : Record} : entity.Declared family →
      entity.toRecord family = .ok record →
      Counterpart family entity.type (.insertEntity entity) (.insertRecord record)
  | select (type : ι) (request : Query) :
      Counterpart family type (.selectEntities type request)
        (.selectRecords (family type).table request)
  | update {entity : Entity ι} {record : Record} (request : Query) : entity.Declared family →
      entity.toRecord family = .ok record →
      Counterpart family entity.type (.updateEntities entity request)
        (.updateRecords record request)
  | updateOwn {entity : Entity ι} {record : Record} : entity.Declared family →
      entity.toRecord family = .ok record →
      Counterpart family entity.type (.updateEntity entity) (.updateRecord record)
  | remove (type : ι) (request : Query) :
      Counterpart family type (.removeEntities type request)
        (.removeRecords (family type).table request)
  | removeOwn {entity : Entity ι} {record : Record} : entity.Declared family →
      entity.toRecord family = .ok record →
      Counterpart family entity.type (.removeEntity entity) (.removeRecord record)

variable {family : ι → EntityDecl ι} {surroundings : Surroundings} {type : ι}

/-! ## What is required of a table -/

section Required

variable {schema : Schema}

theorem run_requireType
    (hrequire : surroundings.catalogue.requireLayout (family type).schema = .ok schema) :
    ReaderT.run (requireType family type) surroundings = pure (family type).schema := by
  change ReaderT.run (lift (surroundings.catalogue.requireLayout (family type).schema)) _ = _
  rw [hrequire, (Catalogue.requireLayout_eq_ok.mp hrequire).2]
  rfl

theorem run_requireTable
    (hrequire : surroundings.catalogue.requireLayout (family type).schema = .ok schema) :
    ReaderT.run (requireTable (family type).table) surroundings = pure (family type).schema := by
  have hmem := (Catalogue.requireLayout_eq_ok.mp hrequire).1
  have htable : surroundings.catalogue.requireTable (family type).table =
      .ok (family type).schema :=
    Catalogue.requireTable_eq_ok.mpr (Catalogue.schema?_eq_some.mpr ⟨hmem, rfl⟩)
  change ReaderT.run (lift (surroundings.catalogue.requireTable (family type).table)) _ = _
  rw [htable]
  rfl

theorem run_requireRecord {record : Record}
    (hrequire : surroundings.catalogue.requireLayout record.schema = .ok schema) :
    ReaderT.run (requireRecord record) surroundings = pure record.schema := by
  change ReaderT.run (lift (surroundings.catalogue.requireLayout record.schema)) _ = _
  rw [hrequire, (Catalogue.requireLayout_eq_ok.mp hrequire).2]
  rfl

theorem run_discard_of_pure {x : Session α} {a : α} (h : ReaderT.run x surroundings = pure a) :
    ReaderT.run (discard x) surroundings = pure () := by
  change ReaderT.run x surroundings >>= (fun _ => pure ()) = _
  rw [h]
  rfl

theorem run_stage {entity : Entity ι} {record : Record}
    (hrequire : surroundings.catalogue.requireLayout (family entity.type).schema = .ok schema)
    (hrecord : entity.toRecord family = .ok record) :
    ReaderT.run (stage family entity) surroundings = pure record := by
  rw [stage, ReaderT.run_bind, run_discard_of_pure (run_requireType hrequire), hrecord]
  rfl

end Required

/-- Both operations of a pair are guarded alike, and do the same until an answer is read. -/
theorem Counterpart.exists_guarded {typed generic : Operation ι}
    (h : Counterpart family type typed generic) {schema : Schema}
    (hrequire : surroundings.catalogue.requireLayout (family type).schema = .ok schema) :
    ∃ name table first second, typed.run family = guarded name table first ∧
      generic.run family = guarded name table second ∧
      ReaderT.run first surroundings =
        ReaderT.run (second >>= fun answer => lift (answer.read family type)) surroundings := by
  have hrecorded : ∀ {entity : Entity ι} {record : Record}, entity.type = type →
      entity.Declared family → entity.toRecord family = .ok record →
      surroundings.catalogue.requireLayout record.schema = .ok schema := by
    rintro entity record rfl hdeclared hrecord
    rwa [(hdeclared.schema_toRecord hrecord).1]
  cases h with
  | @insert entity record hdeclared hrecord =>
    have hown := run_discard_of_pure (run_requireRecord (hrecorded rfl hdeclared hrecord))
    refine ⟨_, _, _, _, rfl, by rw [run, Entity.table_toRecord hrecord], ?_⟩
    simp only [ReaderT.run_bind, run_stage hrequire hrecord, hown, pure_bind, bind_assoc,
      ReaderT.run_pure]
    refine bind_congr fun stored => ?_
    rw [Answer.read, lift_map, ReaderT.run_bind]
    rfl
  | select type request =>
    refine ⟨_, _, _, _, rfl, rfl, ?_⟩
    simp only [ReaderT.run_bind, run_requireType hrequire, run_requireTable hrequire, pure_bind,
      bind_assoc, ReaderT.run_pure]
    refine bind_congr fun found => ?_
    rw [mapM_lift, Answer.read, lift_map, ReaderT.run_bind]
    rfl
  | @update entity record request hdeclared hrecord =>
    have hown := run_discard_of_pure (run_requireRecord (hrecorded rfl hdeclared hrecord))
    refine ⟨_, _, _, _, rfl, by rw [run, Entity.table_toRecord hrecord], ?_⟩
    simp only [ReaderT.run_bind, run_stage hrequire hrecord, hown, pure_bind, bind_assoc,
      ReaderT.run_pure]
    rfl
  | @updateOwn entity record hdeclared hrecord =>
    have hown := run_discard_of_pure (run_requireRecord (hrecorded rfl hdeclared hrecord))
    refine ⟨_, _, _, _, rfl, by rw [run, Entity.table_toRecord hrecord], ?_⟩
    simp only [ReaderT.run_bind, run_stage hrequire hrecord, hown, pure_bind, bind_assoc,
      ReaderT.run_pure]
    rfl
  | remove type request =>
    refine ⟨_, _, _, _, rfl, rfl, ?_⟩
    simp only [ReaderT.run_bind, run_requireType hrequire, run_requireTable hrequire, pure_bind,
      bind_assoc, ReaderT.run_pure]
    rfl
  | @removeOwn entity record hdeclared hrecord =>
    have hown := run_requireRecord (hrecorded rfl hdeclared hrecord)
    refine ⟨_, _, _, _, rfl, by rw [run, Entity.table_toRecord hrecord], ?_⟩
    simp only [ReaderT.run_bind, run_stage hrequire hrecord, hown, pure_bind, bind_assoc,
      ReaderT.run_pure]
    rfl

/-- An operation on entities runs like its counterpart, and then reads the answer. -/
theorem Counterpart.run_eq {typed generic : Operation ι}
    (h : Counterpart family type typed generic) {schema : Schema}
    (hrequire : surroundings.catalogue.requireLayout (family type).schema = .ok schema) :
    ∃ name table, ∀ world, (typed.run family).run surroundings world =
      readEnd name table (Answer.read family type)
        ((generic.run family).run surroundings world) := by
  obtain ⟨name, table, first, second, htyped, hgeneric, hsame⟩ := h.exists_guarded hrequire
  refine ⟨name, table, fun world => ?_⟩
  rw [htyped, hgeneric]
  exact run_guarded_of_reads hsame name table world

end Operation

/-! ## What comes of a pair -/

/-- What came of an operation on entities, by what came of one on records. It sent the same calls
and left the same behind, but for the events. It recorded the same events and ended in the same way,
with the answer read as entities; if the answer cannot be read, this is its fault and its last
event. -/
structure Turn.Follows (family : ι → EntityDecl ι) (type : ι) (typed generic : Turn ι) : Prop where
  sent : typed.sent = generic.sent
  after : typed.after = { generic.after with events := typed.after.events }
  halted : ∀ halt, generic.result = .error halt →
    typed.result = .error halt ∧ typed.recorded = generic.recorded
  read : ∀ answer found, generic.result = .ok answer → answer.read family type = .ok found →
    typed.result = .ok found ∧ typed.recorded = generic.recorded
  unread : ∀ answer fault, generic.result = .ok answer → answer.read family type = .error fault →
    typed.result = .error (.fault fault) ∧
      ∃ event, event.Reports fault ∧ typed.recorded = generic.recorded ++ [event]

namespace Turn

variable {family : ι → EntityDecl ι} {type : ι} {typed generic : Turn ι}

theorem sent_congr (hbefore : typed.before = generic.before)
    (hafter : typed.after.exchanges = generic.after.exchanges) : typed.sent = generic.sent := by
  rw [sent, sent, hbefore, hafter]

theorem recorded_congr (hbefore : typed.before = generic.before)
    (hafter : typed.after.events = generic.after.events) : typed.recorded = generic.recorded := by
  rw [recorded, recorded, hbefore, hafter]

theorem follows_of_readEnd {name : String} {table : Option String}
    (hextends : generic.before.Extends ⟨generic.sent, generic.recorded⟩ generic.after)
    (hbefore : typed.before = generic.before)
    (hrun : (typed.result, typed.after) = Session.readEnd name table (Answer.read family type)
      (generic.result, generic.after)) :
    typed.Follows family type generic := by
  obtain ⟨operation, before, halt | answer, after⟩ := generic
  · obtain ⟨hresult, hafter⟩ := Prod.mk.inj hrun
    have hsame := recorded_congr hbefore (by rw [hafter])
    refine ⟨sent_congr hbefore (by rw [hafter]), by rw [hafter], ?_, ?_, ?_⟩
    · rintro _ ⟨⟩
      exact ⟨hresult, hsame⟩
    · rintro _ _ ⟨⟩
    · rintro _ _ ⟨⟩
  · rw [Session.readEnd] at hrun
    cases hread : answer.read family type with
    | ok found =>
      rw [hread] at hrun
      obtain ⟨hresult, hafter⟩ := Prod.mk.inj hrun
      have hsame := recorded_congr hbefore (by rw [hafter])
      refine ⟨sent_congr hbefore (by rw [hafter]), by rw [hafter], ?_, ?_, ?_⟩
      · rintro _ ⟨⟩
      · rintro _ _ ⟨⟩ hfound
        cases hread.symm.trans hfound
        exact ⟨hresult, hsame⟩
      · rintro _ _ ⟨⟩ hfault
        cases hread.symm.trans hfault
    | error fault =>
      rw [hread] at hrun
      obtain ⟨hresult, hafter⟩ := Prod.mk.inj hrun
      refine ⟨sent_congr hbefore (by rw [hafter]), by rw [hafter], ?_, ?_, ?_⟩
      · rintro _ ⟨⟩
      · rintro _ _ ⟨⟩ hfound
        cases hread.symm.trans hfound
      · rintro _ _ ⟨⟩ hfault
        cases hread.symm.trans hfault
        refine ⟨hresult, _, Event.reports_operationFailed name table fault, ?_⟩
        rw [recorded, hafter, hbefore, hextends.events, List.append_assoc, List.drop_left]

end Turn

/-- An operation on entities whose type is registered as it is declared follows the one on
records, in whatever state the connection is. -/
theorem Operation.follows_counterpart (family : ι → EntityDecl ι) (surroundings : Surroundings)
    {type : ι} {typed generic : Operation ι} (h : Counterpart family type typed generic)
    {schema : Schema}
    (hrequire : surroundings.catalogue.requireLayout (family type).schema = .ok schema)
    (world : World) :
    (turn family surroundings world typed).Follows family type
      (turn family surroundings world generic) := by
  obtain ⟨name, table, hrun⟩ := h.run_eq hrequire
  have htaken := @taken_turn ι family surroundings world generic
  exact Turn.follows_of_readEnd htaken.extends rfl (hrun world)

/-- A user in which nothing is set is stored and read back. A user that is selected together with
its profile is a record, but no entity, since a column of the profile is unknown: that operation
fails behind the same calls. -/
theorem Operation.follows_counterpart_users :
    let row : Row :=
      ⟨[("id", some "1"), ("age", none), ("__instance_key", some "k"), ("profile", some "p")]⟩
    let surroundings : Surroundings := ⟨strippedCatalogue, fun _ _ => .done [row], fun _ => 0⟩
    let inserted := turn users surroundings {} (.insertEntity (Entity.empty users .user))
    let selected := turn users surroundings {}
      (.selectEntities .user { relations := NameSet.empty.insert "profile" })
    strippedCatalogue.requireLayout (users .user).schema = .ok (users .user).schema ∧
      inserted.Follows users .user (turn users surroundings {}
        (.insertRecord (Record.empty (users .user).schema))) ∧
      inserted.result.isOk = true ∧
      selected.Follows users .user (turn users surroundings {}
        (.selectRecords "user" { relations := NameSet.empty.insert "profile" })) ∧
      selected.sent.length = 2 ∧
      selected.result = .error (.fault (.unknownColumn "profile" "bio")) := by
  intro row surroundings inserted selected
  have hrequire : strippedCatalogue.requireLayout (users .user).schema =
    .ok (users .user).schema := rfl
  have hinserted := follows_counterpart users surroundings
    (@Counterpart.insert _ users (Entity.empty users .user) _ ⟨rfl, rfl⟩ rfl) hrequire {}
  have hselected := follows_counterpart users surroundings
    (.select .user { relations := NameSet.empty.insert "profile" }) hrequire {}
  exact ⟨hrequire, hinserted, by decide +kernel, hselected, rfl, rfl⟩

end RecordMapper
