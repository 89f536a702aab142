import Mathlib.Algebra.GroupWithZero.Nat
import RecordMapper.Proofs.Session.Use

/-!
# Histories of a connection

* `Operation.Allows`: the calls that an operation may send.
* `Operation.Transition`, `Operation.transition_run`: all that can come of an operation.
* `Turn`, `Operation.turns`: the operations of a connection one after the other, each with what came
  of it.

A connection is closed, or broken, or neither. What an operation does to that, and what it sends, is
said once here, with a case for each way in which an operation can go.
-/

namespace RecordMapper

namespace Operation

open Session

variable {ι : Type} {family : ι → EntityDecl ι} {surroundings : Surroundings}

/-! ## The calls of an operation -/

/-- The calls that an operation may send, given the tables that are registered. -/
inductive Allows (family : ι → EntityDecl ι) (catalogue : Catalogue) : Operation ι → Call → Prop
  | insertEntity {entity : Entity ι} {record : Record} {call : Call} :
      entity.toRecord family = .ok record → Inserts catalogue.dialect record call →
      Allows family catalogue (.insertEntity entity) call
  | selectEntities {type : ι} {request : Query} {call : Call} :
      Reads catalogue.dialect call → Allows family catalogue (.selectEntities type request) call
  | updateEntities {entity : Entity ι} {request : Query} {record : Record} {call : Call} :
      entity.toRecord family = .ok record → Updates catalogue.dialect record request call →
      Allows family catalogue (.updateEntities entity request) call
  | updateEntity {entity : Entity ι} {record : Record} {request : Query} {call : Call} :
      (family entity.type).schema ∈ catalogue.schemas → entity.toRecord family = .ok record →
      record.ownRow = .ok request → Updates catalogue.dialect record request call →
      Allows family catalogue (.updateEntity entity) call
  | removeEntities {type : ι} {request : Query} {schema : Schema} {call : Call} :
      Deletes catalogue.dialect schema request call →
      Allows family catalogue (.removeEntities type request) call
  | removeEntity {entity : Entity ι} {record : Record} {request : Query} {call : Call} :
      (family entity.type).schema ∈ catalogue.schemas → entity.toRecord family = .ok record →
      record.ownRow = .ok request → Deletes catalogue.dialect record.schema request call →
      Allows family catalogue (.removeEntity entity) call
  | insertRecord {record : Record} {call : Call} : Inserts catalogue.dialect record call →
      Allows family catalogue (.insertRecord record) call
  | selectRecords {table : String} {request : Query} {call : Call} :
      Reads catalogue.dialect call → Allows family catalogue (.selectRecords table request) call
  | updateRecords {record : Record} {request : Query} {call : Call} :
      Updates catalogue.dialect record request call →
      Allows family catalogue (.updateRecords record request) call
  | updateRecord {record : Record} {request : Query} {call : Call} :
      record.schema ∈ catalogue.schemas → record.ownRow = .ok request →
      Updates catalogue.dialect record request call →
      Allows family catalogue (.updateRecord record) call
  | removeRecords {table : String} {request : Query} {schema : Schema} {call : Call} :
      Deletes catalogue.dialect schema request call →
      Allows family catalogue (.removeRecords table request) call
  | removeRecord {record : Record} {request : Query} {call : Call} :
      record.schema ∈ catalogue.schemas → record.ownRow = .ok request →
      Deletes catalogue.dialect record.schema request call →
      Allows family catalogue (.removeRecord record) call
  | execute {sql : String} : Allows family catalogue (.execute sql) (.execute sql)
  | query {sql : String} : Allows family catalogue (.query sql) (.query sql)
  | close : Allows family catalogue .close .close

theorem Allows.ne_close {catalogue : Catalogue} {operation : Operation ι} {call : Call}
    (h : operation.Allows family catalogue call) (hne : operation ≠ .close) : call ≠ .close := by
  cases h with
  | close => exact absurd rfl hne
  | insertEntity _ h | insertRecord h => cases h <;> nofun
  | selectEntities h | selectRecords h => cases h; nofun
  | updateEntities _ h | updateEntity _ _ _ h | updateRecords h | updateRecord _ _ h =>
    cases h
    nofun
  | removeEntities h | removeEntity _ _ _ h | removeRecords h | removeRecord _ _ h =>
    cases h
    nofun
  | execute | query => nofun

section Uses

variable {α β : Type} {C D : Call → Prop}

/-- What is used, and gives a result only if there is a call for it, is part of a larger use. -/
theorem uses_result {x : Session α} {f : α → Session β}
    (hx : Uses surroundings C x fun _ => ∃ call, C call) (hCD : ∀ call, C call → D call)
    (hf : ∀ a, Uses surroundings D (f a) fun _ => True) :
    Uses surroundings D (x >>= f) fun _ => ∃ call, D call := by
  refine uses_bind (uses_mono hx hCD fun _ h => h) ?_
  rintro a ⟨call, hcall⟩
  exact uses_mono (hf a) (fun _ h => h) fun _ _ => ⟨call, hCD call hcall⟩

theorem uses_requireLayout (schema : Schema) :
    Uses surroundings C (do lift ((← read).catalogue.requireLayout schema)) fun registered =>
      registered = schema ∧ schema ∈ surroundings.catalogue.schemas := by
  refine uses_read_bind (uses_mono (uses_lift _) (fun _ h => h) fun registered hfound => ?_)
  obtain ⟨hmem, rfl⟩ := Catalogue.requireLayout_eq_ok.mp hfound
  exact ⟨rfl, hmem⟩

theorem uses_requireTable (table : String) :
    Uses surroundings C (requireTable table) fun _ => True :=
  uses_read_bind (uses_mono (uses_lift _) (fun _ h => h) fun _ _ => trivial)

theorem uses_stage (entity : Entity ι) :
    Uses surroundings C (stage family entity) fun record =>
      entity.toRecord family = .ok record ∧
        (family entity.type).schema ∈ surroundings.catalogue.schemas := by
  refine uses_bind (uses_discard (uses_requireLayout _)) ?_
  rintro _ ⟨_, -, hmem⟩
  exact uses_mono (uses_lift _) (fun _ h => h) fun _ hrecord => ⟨hrecord, hmem⟩

end Uses

/-- What an operation that is no end runs, guarded. It gives a result only if there is a call that
it may send. -/
theorem exists_guarded (family : ι → EntityDecl ι) (surroundings : Surroundings)
    {operation : Operation ι} (hne : operation ≠ .close) :
    ∃ name table session, operation.run family = guarded name table session ∧
      Uses surroundings (operation.Allows family surroundings.catalogue) session
        fun _ => ∃ call, operation.Allows family surroundings.catalogue call := by
  cases operation with
  | close => exact absurd rfl hne
  | insertEntity =>
    refine ⟨_, _, _, rfl, uses_bind (uses_stage _) fun record ⟨hrecord, _⟩ => ?_⟩
    refine uses_result (uses_insert _) (fun _ => .insertEntity hrecord) fun stored => ?_
    exact uses_bind (uses_lift _) fun _ _ => uses_pure trivial
  | selectEntities =>
    refine ⟨_, _, _, rfl, uses_bind (uses_requireLayout _) fun schema _ => ?_⟩
    refine uses_result (uses_select _ _) (fun _ => .selectEntities) fun records => ?_
    refine uses_bind (uses_mapM fun record => ?_) fun _ _ => uses_pure trivial
    exact uses_mono (uses_lift _) (fun _ h => h) fun _ _ => trivial
  | updateEntities =>
    refine ⟨_, _, _, rfl, uses_bind (uses_stage _) fun record ⟨hrecord, _⟩ => ?_⟩
    exact uses_result (uses_update _ _) (fun _ => .updateEntities hrecord) fun _ =>
      uses_pure trivial
  | updateEntity =>
    refine ⟨_, _, _, rfl, uses_bind (uses_stage _) fun record ⟨hrecord, hmem⟩ => ?_⟩
    refine uses_bind (uses_lift _) fun request hown => ?_
    exact uses_result (uses_update _ _) (fun _ => .updateEntity hmem hrecord hown) fun _ =>
      uses_pure trivial
  | removeEntities =>
    refine ⟨_, _, _, rfl, uses_bind (uses_requireLayout _) fun schema _ => ?_⟩
    exact uses_result (uses_delete _ _) (fun _ => .removeEntities) fun _ => uses_pure trivial
  | removeEntity =>
    refine ⟨_, _, _, rfl, uses_bind (uses_stage _) fun record ⟨hrecord, hmem⟩ => ?_⟩
    refine uses_bind (uses_lift _) fun request hown => ?_
    exact uses_result (uses_delete _ _) (fun _ => .removeEntity hmem hrecord hown) fun _ =>
      uses_pure trivial
  | insertRecord =>
    refine ⟨_, _, _, rfl, uses_bind (uses_discard (uses_requireLayout _)) fun _ _ => ?_⟩
    exact uses_result (uses_insert _) (fun _ => .insertRecord) fun _ => uses_pure trivial
  | selectRecords =>
    refine ⟨_, _, _, rfl, uses_bind (uses_requireTable _) fun schema _ => ?_⟩
    exact uses_result (uses_select _ _) (fun _ => .selectRecords) fun _ => uses_pure trivial
  | updateRecords =>
    refine ⟨_, _, _, rfl, uses_bind (uses_discard (uses_requireLayout _)) fun _ _ => ?_⟩
    exact uses_result (uses_update _ _) (fun _ => .updateRecords) fun _ => uses_pure trivial
  | updateRecord =>
    refine ⟨_, _, _, rfl, uses_bind (uses_discard (uses_requireLayout _)) ?_⟩
    rintro _ ⟨_, -, hmem⟩
    refine uses_bind (uses_lift _) fun request hown => ?_
    exact uses_result (uses_update _ _) (fun _ => .updateRecord hmem hown) fun _ =>
      uses_pure trivial
  | removeRecords =>
    refine ⟨_, _, _, rfl, uses_bind (uses_requireTable _) fun schema _ => ?_⟩
    exact uses_result (uses_delete _ _) (fun _ => .removeRecords) fun _ => uses_pure trivial
  | removeRecord =>
    refine ⟨_, _, _, rfl, uses_bind (uses_requireLayout _) ?_⟩
    rintro _ ⟨rfl, hmem⟩
    refine uses_bind (uses_lift _) fun request hown => ?_
    exact uses_result (uses_delete _ _) (fun _ => .removeRecord hmem hown) fun _ =>
      uses_pure trivial
  | execute =>
    exact ⟨_, _, _, rfl, uses_bind (uses_execute .execute) fun _ _ => uses_pure ⟨_, .execute⟩⟩
  | query =>
    exact ⟨_, _, _, rfl, uses_bind (uses_query .query) fun _ _ => uses_pure ⟨_, .query⟩⟩

/-! ## What can come of an operation -/

/-- What can come of an operation, by the state of the connection. -/
inductive Transition (family : ι → EntityDecl ι) (catalogue : Catalogue) (operation : Operation ι)
    (before : World) : Except Halt (Answer ι) → World → Prop
  -- a closed connection refuses what is asked of it, and so does a broken one
  | closed {event : Event} : operation ≠ .close → before.isClosed = true →
      event.name ≠ Event.connectionClosed.name →
      Transition family catalogue operation before (.error (.fault .connectionClosed))
        { before with events := before.events ++ [event] }
  | poisoned {event : Event} : operation ≠ .close → before.isClosed = false →
      before.isPoisoned = true → event.name ≠ Event.connectionClosed.name →
      Transition family catalogue operation before (.error (.fault .connectionPoisoned))
        { before with events := before.events ++ [event] }
  -- any other is used, and is broken afterwards if the store crashed
  | used {result : Except Halt (Answer ι)} {added : Footprint} {after : World} :
      operation ≠ .close → before.isClosed = false → before.isPoisoned = false →
      before.Extends added after →
      InUse (operation.Allows family catalogue)
        (fun _ => ∃ call, operation.Allows family catalogue call) result added →
      after.isClosed = false → (after.isPoisoned = true ↔ result = .error .crash) →
      Transition family catalogue operation before result after
  -- the end of a closed connection does nothing, and that of a broken one does without the store
  | endAgain : operation = .close → before.isClosed = true →
      Transition family catalogue operation before (.ok .done) before
  | endPoisoned : operation = .close → before.isClosed = false → before.isPoisoned = true →
      Transition family catalogue operation before (.error (.fault .connectionPoisoned))
        { before with isClosed := true }
  -- any other end is that of the store, which may fail
  | endDone {rows : List Row} : operation = .close → before.isClosed = false →
      before.isPoisoned = false →
      Transition family catalogue operation before (.ok .done) { before with
        exchanges := before.exchanges ++ [⟨.close, .done rows⟩]
        events := before.events ++ [.connectionClosed]
        isClosed := true }
  | endRefused {text : String} {event : Event} : operation = .close → before.isClosed = false →
      before.isPoisoned = false → event.name ≠ Event.connectionClosed.name →
      Transition family catalogue operation before (.error (.fault (.store text))) { before with
        exchanges := before.exchanges ++ [⟨.close, .refused text⟩]
        events := before.events ++ [event]
        isClosed := true }
  | endCrashed : operation = .close → before.isClosed = false → before.isPoisoned = false →
      Transition family catalogue operation before (.error .crash) { before with
        exchanges := before.exchanges ++ [⟨.close, .crashed⟩]
        isClosed := true
        isPoisoned := true }

theorem run_end (world : World) :
    ((Operation.close).run family).run surroundings world =
      ((Session.close.run surroundings world).1.map fun _ => Answer.done,
        (Session.close.run surroundings world).2) := by
  rw [Operation.run, run_bind]
  rcases Session.close.run surroundings world with ⟨_ | _, world'⟩ <;> rfl

theorem transition_close (world : World) :
    Transition family surroundings.catalogue .close world
      (((Operation.close).run family).run surroundings world).1
      (((Operation.close).run family).run surroundings world).2 := by
  have hend := @closeEnd surroundings world
  rw [run_end]
  generalize Session.close.run surroundings world = ended at hend ⊢
  obtain ⟨result, after⟩ := ended
  cases hend with
  | again hclosed => exact .endAgain rfl hclosed
  | poisoned hopen hpoisoned => exact .endPoisoned rfl hopen hpoisoned
  | done hopen hsound => exact .endDone rfl hopen hsound
  | refused hopen hsound =>
    exact .endRefused rfl hopen hsound (Event.name_operationFailed_ne _ _ _)
  | crashed hopen hsound => exact .endCrashed rfl hopen hsound

theorem transition_guarded {operation : Operation ι} (hne : operation ≠ .close) {name : String}
    {table : Option String} {session : Session (Answer ι)}
    (h : Uses surroundings (operation.Allows family surroundings.catalogue) session
      fun _ => ∃ call, operation.Allows family surroundings.catalogue call) (world : World) :
    Transition family surroundings.catalogue operation world
      ((guarded name table session).run surroundings world).1
      ((guarded name table session).run surroundings world).2 := by
  have hfailed := Event.name_operationFailed_ne name table
  have hend := @guardedEnd _ surroundings name table session world
  obtain ⟨added, hextends, hadded⟩ := h.leaves world
  have hclosed := h.isClosed world
  have hpoisoned := h.isPoisoned world
  generalize (guarded name table session).run surroundings world = ended at hend ⊢
  obtain ⟨result, after⟩ := ended
  cases hend with
  | closed hclosed => exact .closed hne hclosed (hfailed _)
  | poisoned hopen hpoisoned => exact .poisoned hne hopen hpoisoned (hfailed _)
  | done hopen hsound hrun =>
    rw [hrun] at hextends hadded hclosed hpoisoned
    refine .used hne hopen hsound hextends hadded (hclosed.trans hopen) ?_
    rw [show after.isPoisoned = false from hpoisoned.trans hsound]
    exact ⟨nofun, nofun⟩
  | @failed fault world' hopen hsound hrun =>
    rw [hrun] at hextends hadded hclosed hpoisoned
    refine .used hne hopen hsound (hextends.trans (.event world' _)) (hadded.record (hfailed fault))
      (hclosed.trans hopen) ?_
    rw [show world'.isPoisoned = false from hpoisoned.trans hsound]
    exact ⟨nofun, nofun⟩
  | crashed hopen hsound hrun =>
    rw [hrun] at hextends hadded hclosed
    exact .used hne hopen hsound ⟨hextends.exchanges, hextends.events⟩ hadded
      (hclosed.trans hopen) ⟨fun _ => rfl, fun _ => rfl⟩

theorem transition_run (operation : Operation ι) (world : World) :
    Transition family surroundings.catalogue operation world
      ((operation.run family).run surroundings world).1
      ((operation.run family).run surroundings world).2 := by
  by_cases hclose : operation = .close
  · subst hclose
    exact transition_close world
  · obtain ⟨name, table, session, hrun, huses⟩ := exists_guarded family surroundings hclose
    rw [hrun]
    exact transition_guarded hclose huses world

theorem Transition.exists_extends {operation : Operation ι} {before after : World}
    {result : Except Halt (Answer ι)}
    (h : operation.Transition family surroundings.catalogue before result after) :
    ∃ added, before.Extends added after := by
  cases h with
  | closed | poisoned => exact ⟨⟨[], [_]⟩, (List.append_nil _).symm, rfl⟩
  | used _ _ _ hextends => exact ⟨_, hextends⟩
  | endAgain => exact ⟨{}, .refl _⟩
  | endPoisoned => exact ⟨{}, (List.append_nil _).symm, (List.append_nil _).symm⟩
  | endDone | endRefused => exact ⟨⟨[_], [_]⟩, rfl, rfl⟩
  | endCrashed => exact ⟨⟨[_], []⟩, rfl, (List.append_nil _).symm⟩

end Operation

/-! ## Sequences of operations -/

/-- One operation of a connection, and what came of it. -/
structure Turn (ι : Type) where
  operation : Operation ι
  before : World
  result : Except Halt (Answer ι)
  after : World

variable {ι : Type} {family : ι → EntityDecl ι} {surroundings : Surroundings}

namespace Turn

/-- The exchanges with the store during a turn. -/
def sent (turn : Turn ι) : List Exchange :=
  turn.after.exchanges.drop turn.before.exchanges.length

/-- The events of a turn. -/
def recorded (turn : Turn ι) : List Event :=
  turn.after.events.drop turn.before.events.length

/-- The turn is a run of its operation. -/
def Taken (family : ι → EntityDecl ι) (surroundings : Surroundings) (turn : Turn ι) : Prop :=
  (turn.operation.run family).run surroundings turn.before = (turn.result, turn.after)

variable {turn : Turn ι} {added : Footprint}

theorem sent_of_extends (h : turn.before.Extends added turn.after) :
    turn.sent = added.exchanges := by
  rw [sent, h.exchanges, List.drop_left]

theorem recorded_of_extends (h : turn.before.Extends added turn.after) :
    turn.recorded = added.events := by
  rw [recorded, h.events, List.drop_left]

theorem Taken.transition (h : turn.Taken family surroundings) :
    turn.operation.Transition family surroundings.catalogue turn.before turn.result turn.after := by
  have hrun := @Operation.transition_run ι family surroundings turn.operation turn.before
  rwa [show _ = _ from h] at hrun

/-- Nothing that was left behind before a turn is lost in it. -/
theorem Taken.extends (h : turn.Taken family surroundings) :
    turn.before.Extends { exchanges := turn.sent, events := turn.recorded } turn.after := by
  obtain ⟨added, hextends⟩ := h.transition.exists_extends
  rw [sent_of_extends hextends, recorded_of_extends hextends]
  exact hextends

end Turn

namespace Operation

/-- An operation that is run in a world. -/
def turn (family : ι → EntityDecl ι) (surroundings : Surroundings) (world : World)
    (operation : Operation ι) : Turn ι :=
  let ended := (operation.run family).run surroundings world
  { operation, before := world, result := ended.1, after := ended.2 }

theorem taken_turn (world : World) (operation : Operation ι) :
    (turn family surroundings world operation).Taken family surroundings := rfl

/-- The turns of a sequence of operations. Each begins where the one before it has ended. -/
def turns (family : ι → EntityDecl ι) (surroundings : Surroundings) :
    World → List (Operation ι) → List (Turn ι)
  | _, [] => []
  | world, operation :: rest =>
    let first := turn family surroundings world operation
    first :: turns family surroundings first.after rest

theorem map_operation_turns (family : ι → EntityDecl ι) (surroundings : Surroundings)
    (world : World) (operations : List (Operation ι)) :
    (turns family surroundings world operations).map (·.operation) = operations := by
  induction operations generalizing world with
  | nil => rfl
  | cons operation rest ih => exact congrArg (operation :: ·) (ih _)

theorem taken_of_mem_turns {world : World} {operations : List (Operation ι)} {turn : Turn ι}
    (h : turn ∈ turns family surroundings world operations) : turn.Taken family surroundings := by
  induction operations generalizing world with
  | nil => cases h
  | cons operation rest ih =>
    rcases List.mem_cons.mp h with rfl | hmem
    · exact taken_turn world operation
    · exact ih hmem

/-- What is raised in some turns, and never lowered, is raised before a turn exactly if it was
raised at first or in a turn before it. -/
theorem flag_before {flag : World → Bool} {raises : Turn ι → Bool}
    (hraise : ∀ turn : Turn ι, turn.Taken family surroundings →
      flag turn.after = (flag turn.before || raises turn))
    {world : World} {operations : List (Operation ι)} {earlier later : List (Turn ι)}
    {turn : Turn ι}
    (h : turns family surroundings world operations = earlier ++ turn :: later) :
    flag turn.before = (flag world || earlier.any raises) := by
  induction earlier generalizing world operations with
  | nil =>
    cases operations with
    | nil => cases h
    | cons operation rest =>
      obtain ⟨rfl, -⟩ := List.cons.inj h
      rw [List.any_nil, Bool.or_false]
      rfl
  | cons first earlier ih =>
    cases operations with
    | nil => cases h
    | cons operation rest =>
      obtain ⟨rfl, hrest⟩ := List.cons.inj h
      rw [ih hrest, hraise _ (taken_turn world operation), List.any_cons, ← Bool.or_assoc]
      rfl

/-- A count that can only rise while a flag does is at most one. -/
theorem sum_turns_le {flag : World → Bool} {count : Turn ι → Nat}
    (hcount : ∀ turn : Turn ι, turn.Taken family surroundings →
      count turn + (flag turn.before).toNat ≤ (flag turn.after).toNat)
    (world : World) (operations : List (Operation ι)) :
    ((turns family surroundings world operations).map count).sum + (flag world).toNat ≤ 1 := by
  induction operations generalizing world with
  | nil =>
    rw [turns, List.map_nil, List.sum_nil, Nat.zero_add]
    exact Bool.toNat_le (flag world)
  | cons operation rest ih =>
    let first := turn family surroundings world operation
    let others := ((turns family surroundings first.after rest).map count).sum
    have hfirst : count first + (flag world).toNat ≤ (flag first.after).toNat :=
      hcount first (taken_turn world operation)
    rw [turns, List.map_cons, List.sum_cons]
    calc count first + others + (flag world).toNat
      _ = count first + (flag world).toNat + others := Nat.add_right_comm _ _ _
      _ ≤ (flag first.after).toNat + others := Nat.add_le_add_right hfirst others
      _ = others + (flag first.after).toNat := Nat.add_comm _ _
      _ ≤ 1 := ih first.after

end Operation

end RecordMapper
