import RecordMapper.Proofs.Session.Announced
import RecordMapper.Proofs.Session.Mutation

/-!
# The trail of an operation

* `Operation.Course`, `Turn.Taken.course`: all that an operation sends and records, with a case for
  each way in which it can go.
* `Operation.audited_turn`: the statements that an operation sends are those that its events tell,
  each with the table that it is about.
-/

namespace RecordMapper

/-! ## Operations that announce their calls -/

/-- The record of an entity belongs to the table of its type. -/
theorem Entity.table_toRecord {ι : Type} {family : ι → EntityDecl ι} {entity : Entity ι}
    {record : Record} (h : entity.toRecord family = .ok record) :
    record.table = (family entity.type).table := by
  obtain ⟨type, fields, links, key⟩ := entity
  obtain ⟨made, -, h⟩ := bind_eq_ok.mp h
  obtain ⟨madeLinks, -, h⟩ := bind_eq_ok.mp h
  cases h
  rfl

namespace Operation

open Session

variable {ι : Type} {family : ι → EntityDecl ι} {surroundings : Surroundings}

/-- The table that an operation names with a statement: none with one that it sends as it is given,
and otherwise the one that the statement is about. -/
def NamesTable (operation : Operation ι) (table : Option String) (sql : String) : Prop :=
  if operation.isRaw then table = none else NamesTarget table sql

section Tells

variable {T : Option String → String → Prop}

theorem tells_requireLayout (schema : Schema) :
    Tells surroundings T (do lift ((← read).catalogue.requireLayout schema)) fun registered =>
      registered = schema ∧ schema ∈ surroundings.catalogue.schemas := by
  refine leaves_read_bind (tells_mono (tells_lift _) fun registered hfound => ?_)
  obtain ⟨hmem, rfl⟩ := Catalogue.requireLayout_eq_ok.mp hfound
  exact ⟨rfl, hmem⟩

theorem tells_requireTable (table : String) :
    Tells surroundings T (requireTable table) (· ∈ surroundings.catalogue.schemas) := by
  refine leaves_read_bind (tells_mono (tells_lift _) fun schema hfound => ?_)
  exact (Catalogue.schema?_eq_some.mp (Catalogue.requireTable_eq_ok.mp hfound)).1

theorem tells_stage (entity : Entity ι) :
    Tells surroundings T (stage family entity) fun record => Quotable record.table := by
  refine tells_bind (tells_discard (tells_requireLayout _)) ?_
  rintro _ ⟨_, -, hmem⟩
  refine tells_mono (tells_lift _) fun record hrecord => ?_
  rw [Entity.table_toRecord hrecord]
  exact Catalogue.quotable_table hmem

end Tells

/-- What an operation that is no end runs, guarded, announces each of its calls. -/
theorem exists_told (family : ι → EntityDecl ι) (surroundings : Surroundings)
    {operation : Operation ι} (hne : operation ≠ .close) :
    ∃ name table session, operation.run family = guarded name table session ∧
      Tells surroundings operation.NamesTable session fun _ => True := by
  cases operation with
  | close => exact absurd rfl hne
  | insertEntity =>
    refine ⟨_, _, _, rfl, tells_bind (tells_stage _) fun record htable => ?_⟩
    refine tells_bind (tells_insert htable) fun stored _ => ?_
    exact tells_bind (tells_lift _) fun _ _ => tells_pure trivial
  | selectEntities =>
    refine ⟨_, _, _, rfl, tells_bind (tells_requireLayout _) ?_⟩
    rintro _ ⟨rfl, hmem⟩
    refine tells_bind (tells_select hmem _) fun records _ => ?_
    refine tells_bind (tells_mapM fun record => ?_) fun _ _ => tells_pure trivial
    exact tells_mono (tells_lift _) fun _ _ => trivial
  | updateEntities =>
    refine ⟨_, _, _, rfl, tells_bind (tells_stage _) fun record htable => ?_⟩
    exact tells_bind (tells_update htable _) fun _ _ => tells_pure trivial
  | updateEntity =>
    refine ⟨_, _, _, rfl, tells_bind (tells_stage _) fun record htable => ?_⟩
    refine tells_bind (tells_lift _) fun request _ => ?_
    exact tells_bind (tells_update htable _) fun _ _ => tells_pure trivial
  | removeEntities =>
    refine ⟨_, _, _, rfl, tells_bind (tells_requireLayout _) ?_⟩
    rintro _ ⟨rfl, hmem⟩
    exact tells_bind (tells_delete (Catalogue.quotable_table hmem) _) fun _ _ => tells_pure trivial
  | removeEntity =>
    refine ⟨_, _, _, rfl, tells_bind (tells_stage _) fun record htable => ?_⟩
    refine tells_bind (tells_lift _) fun request _ => ?_
    exact tells_bind (tells_delete htable _) fun _ _ => tells_pure trivial
  | insertRecord =>
    refine ⟨_, _, _, rfl, tells_bind (tells_discard (tells_requireLayout _)) ?_⟩
    rintro _ ⟨_, -, hmem⟩
    exact tells_bind (tells_insert (Catalogue.quotable_table hmem)) fun _ _ => tells_pure trivial
  | selectRecords =>
    refine ⟨_, _, _, rfl, tells_bind (tells_requireTable _) fun schema hmem => ?_⟩
    exact tells_bind (tells_select hmem _) fun _ _ => tells_pure trivial
  | updateRecords =>
    refine ⟨_, _, _, rfl, tells_bind (tells_discard (tells_requireLayout _)) ?_⟩
    rintro _ ⟨_, -, hmem⟩
    exact tells_bind (tells_update (Catalogue.quotable_table hmem) _) fun _ _ => tells_pure trivial
  | updateRecord =>
    refine ⟨_, _, _, rfl, tells_bind (tells_discard (tells_requireLayout _)) ?_⟩
    rintro _ ⟨_, -, hmem⟩
    refine tells_bind (tells_lift _) fun request _ => ?_
    exact tells_bind (tells_update (Catalogue.quotable_table hmem) _) fun _ _ => tells_pure trivial
  | removeRecords =>
    refine ⟨_, _, _, rfl, tells_bind (tells_requireTable _) fun schema hmem => ?_⟩
    exact tells_bind (tells_delete (Catalogue.quotable_table hmem) _) fun _ _ => tells_pure trivial
  | removeRecord =>
    refine ⟨_, _, _, rfl, tells_bind (tells_requireLayout _) ?_⟩
    rintro _ ⟨rfl, hmem⟩
    refine tells_bind (tells_lift _) fun request _ => ?_
    exact tells_bind (tells_delete (Catalogue.quotable_table hmem) _) fun _ _ => tells_pure trivial
  | execute =>
    exact ⟨_, _, _, rfl, tells_bind (tells_execute rfl) fun _ _ => tells_pure trivial⟩
  | query =>
    exact ⟨_, _, _, rfl, tells_bind (tells_query rfl) fun _ _ => tells_pure trivial⟩

/-! ## What an operation sends and records -/

/-- How an operation ends, by the calls that it sent and the events that it recorded. -/
inductive Course (operation : Operation ι) (before : World) :
    Except Halt (Answer ι) → List Exchange → List Event → Prop
  -- each call is announced, and a failure is the last event
  | done {answer : Answer ι} {sent : List Exchange} {told : List Event} : operation ≠ .close →
      List.Forall₂ (Announces operation.NamesTable) told sent →
      Course operation before (.ok answer) sent told
  | failed {fault : Fault} {name : String} {table : Option String} {sent : List Exchange}
      {told : List Event} : operation ≠ .close →
      List.Forall₂ (Announces operation.NamesTable) told sent →
      Course operation before (.error (.fault fault)) sent
        (told ++ [.operationFailed name table fault])
  | crashed {sent : List Exchange} {told : List Event} : operation ≠ .close →
      List.Forall₂ (Announces operation.NamesTable) told sent →
      Course operation before (.error .crash) sent told
  -- the end of a connection announces no call
  | endAgain : operation = .close → before.isClosed = true →
      Course operation before (.ok .done) [] []
  | endPoisoned : operation = .close → before.isClosed = false → before.isPoisoned = true →
      Course operation before (.error (.fault .connectionPoisoned)) [] []
  | endDone {rows : List Row} : operation = .close → before.isPoisoned = false →
      Course operation before (.ok .done) [⟨.close, .done rows⟩] [.connectionClosed]
  | endRefused {text : String} : operation = .close → before.isPoisoned = false →
      Course operation before (.error (.fault (.store text))) [⟨.close, .refused text⟩]
        [.operationFailed "close" none (.store text)]
  | endCrashed : operation = .close → before.isPoisoned = false →
      Course operation before (.error .crash) [⟨.close, .crashed⟩] []

theorem course_guarded {operation : Operation ι} (hne : operation ≠ .close) (name : String)
    (table : Option String) {session : Session (Answer ι)}
    (h : Tells surroundings operation.NamesTable session fun _ => True) (world : World) :
    ∃ added, world.Extends added ((guarded name table session).run surroundings world).2 ∧
      Course operation world ((guarded name table session).run surroundings world).1
        added.exchanges added.events := by
  have hend := @guardedEnd _ surroundings name table session world
  obtain ⟨added, hextends, htold⟩ := h world
  generalize (guarded name table session).run surroundings world = ended at hend ⊢
  obtain ⟨result, after⟩ := ended
  cases hend with
  | closed | poisoned => exact ⟨_, .event world _, .failed hne .nil⟩
  | done _ _ hrun =>
    rw [hrun] at hextends htold
    exact ⟨added, hextends, .done hne htold.calls⟩
  | @failed fault world' _ _ hrun =>
    rw [hrun] at hextends htold
    refine ⟨_, hextends.trans (.event world' _), ?_⟩
    rw [Footprint.exchanges_append, List.append_nil]
    exact .failed hne htold.calls
  | crashed _ _ hrun =>
    rw [hrun] at hextends htold
    exact ⟨added, ⟨hextends.exchanges, hextends.events⟩, .crashed hne htold.calls⟩

theorem course_close (world : World) :
    ∃ added, world.Extends added (((Operation.close).run family).run surroundings world).2 ∧
      Course .close world (((Operation.close).run family).run surroundings world).1
        added.exchanges added.events := by
  have hend := @closeEnd surroundings world
  rw [run_end]
  generalize Session.close.run surroundings world = ended at hend ⊢
  obtain ⟨result, after⟩ := ended
  have hnil {α : Type} (xs : List α) : xs = xs ++ [] := (List.append_nil xs).symm
  cases hend with
  | again hclosed => exact ⟨{}, .refl _, .endAgain rfl hclosed⟩
  | poisoned hopen hpoisoned => exact ⟨{}, ⟨hnil _, hnil _⟩, .endPoisoned rfl hopen hpoisoned⟩
  | done _ hsound => exact ⟨⟨[_], [_]⟩, ⟨rfl, rfl⟩, .endDone rfl hsound⟩
  | refused _ hsound => exact ⟨⟨[_], [_]⟩, ⟨rfl, rfl⟩, .endRefused rfl hsound⟩
  | crashed _ hsound => exact ⟨⟨[_], []⟩, ⟨rfl, hnil _⟩, .endCrashed rfl hsound⟩

end Operation

namespace Turn

variable {ι : Type} {family : ι → EntityDecl ι} {surroundings : Surroundings} {turn : Turn ι}

/-- Every operation goes in one of these ways, wherever it begins. -/
theorem Taken.course (h : turn.Taken family surroundings) :
    turn.operation.Course turn.before turn.result turn.sent turn.recorded := by
  have hrun : (turn.operation.run family).run surroundings turn.before =
      (turn.result, turn.after) := h
  obtain ⟨added, hextends, hcourse⟩ : ∃ added, turn.before.Extends added turn.after ∧
      turn.operation.Course turn.before turn.result added.exchanges added.events := by
    -- all operations are guarded but the end of the connection
    by_cases hclose : turn.operation = .close
    · rw [hclose] at hrun ⊢
      have hcourse := @Operation.course_close _ family surroundings turn.before
      rwa [hrun] at hcourse
    · obtain ⟨name, table, session, hguarded, htells⟩ :=
        Operation.exists_told family surroundings hclose
      have hcourse := Operation.course_guarded hclose name table htells turn.before
      rwa [← hguarded, hrun] at hcourse
  rwa [sent_of_extends hextends, recorded_of_extends hextends]

end Turn

/-! ## Statements that are told -/

/-- Whether an event announces a statement. -/
def Event.IsAnnouncement (event : Event) : Prop :=
  event.name = "statement_executed" ∨ event.name = "query_executed"

/-- The call that an event announces. -/
def Event.announced? (event : Event) : Option Call :=
  match event.name with
  | "statement_executed" => event.sql.map .execute
  | "query_executed" => event.sql.map .query
  | _ => none

section Announces

variable {T : Option String → String → Prop} {told : List Event} {sent : List Exchange}
  (h : List.Forall₂ (Announces T) told sent)

include h

theorem filterMap_announced? : told.filterMap Event.announced? = sent.map (·.call) := by
  induction h with
  | nil => rfl
  | cons hfirst _ ih =>
    cases hfirst with
    | execute | query => exact congrArg (_ :: ·) ih

theorem filter_call_ne_close : (sent.map (·.call)).filter (· ≠ .close) = sent.map (·.call) := by
  rw [List.filter_eq_self]
  intro call hcall
  obtain ⟨exchange, hexchange, rfl⟩ := List.mem_map.mp hcall
  obtain ⟨event, -, hannounces⟩ := exists_of_mem_right h hexchange
  cases hannounces with
  | execute | query => rfl

theorem exists_sql_of_announces :
    ∀ event ∈ told, ∃ sql, event.sql = some sql ∧ T event.table sql := by
  intro event hevent
  obtain ⟨exchange, -, hannounces⟩ := exists_of_mem_left h hevent
  cases hannounces with
  | execute hT | query hT => exact ⟨_, rfl, hT⟩

end Announces

/-- The statements among what was sent. -/
def statementsOf (sent : List Exchange) : List Call :=
  (sent.map (·.call)).filter (· ≠ .close)

/-- The events of an operation tell all statements that it sent, in order, and with each the table
that it is about, but no table with a statement that was sent as it was given. -/
structure Operation.Audited {ι : Type} (operation : Operation ι) (sent : List Exchange)
    (recorded : List Event) : Prop where
  told : recorded.filterMap Event.announced? = statementsOf sent
  tables : ∀ event ∈ recorded, event.IsAnnouncement →
    ∃ sql, event.sql = some sql ∧ operation.NamesTable event.table sql

theorem Event.not_isAnnouncement_operationFailed (name : String) (table : Option String)
    (fault : Fault) : ¬(Event.operationFailed name table fault).IsAnnouncement :=
  not_or.mpr ⟨show "operation_failed" ≠ "statement_executed" by decide,
    show "operation_failed" ≠ "query_executed" by decide⟩

theorem Event.not_isAnnouncement_connectionClosed : ¬Event.connectionClosed.IsAnnouncement :=
  not_or.mpr ⟨by decide, by decide⟩

namespace Operation

variable {ι : Type}

/-- In whichever way an operation goes, its events tell what it sent. -/
theorem Course.audited {operation : Operation ι} {before : World} {result : Except Halt (Answer ι)}
    {sent : List Exchange} {recorded : List Event}
    (h : operation.Course before result sent recorded) : operation.Audited sent recorded := by
  cases h with
  | done _ htold | crashed _ htold =>
    constructor
    case told => rw [filterMap_announced? htold, statementsOf, filter_call_ne_close htold]
    case tables => exact fun event hevent _ => exists_sql_of_announces htold event hevent
  | @failed fault name table _ told _ htold =>
    have hfailed : [Event.operationFailed name table fault].filterMap Event.announced? = [] := rfl
    constructor
    case told =>
      rw [List.filterMap_append, hfailed, List.append_nil, filterMap_announced? htold, statementsOf,
        filter_call_ne_close htold]
    case tables =>
      intro event hevent hannounces
      rcases List.mem_append.mp hevent with htoldEvent | hlast
      · exact exists_sql_of_announces htold event htoldEvent
      · rw [List.mem_singleton.mp hlast] at hannounces
        exact absurd hannounces (Event.not_isAnnouncement_operationFailed _ _ _)
  | endAgain | endPoisoned | endCrashed => exact ⟨rfl, nofun⟩
  | endDone =>
    refine ⟨rfl, fun event hevent hannounces => ?_⟩
    rw [List.mem_singleton.mp hevent] at hannounces
    exact absurd hannounces Event.not_isAnnouncement_connectionClosed
  | endRefused =>
    refine ⟨rfl, fun event hevent hannounces => ?_⟩
    rw [List.mem_singleton.mp hevent] at hannounces
    exact absurd hannounces (Event.not_isAnnouncement_operationFailed _ _ _)

/-- Whatever the state of a connection, and however an operation ends, its events tell the
statements that it sent. -/
theorem audited_turn (family : ι → EntityDecl ι) (surroundings : Surroundings) (world : World)
    (operation : Operation ι) :
    operation.Audited (turn family surroundings world operation).sent
      (turn family surroundings world operation).recorded := by
  have htaken := @taken_turn ι family surroundings world operation
  exact htaken.course.audited

end Operation

end RecordMapper
