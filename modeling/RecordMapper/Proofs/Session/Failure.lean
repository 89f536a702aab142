import RecordMapper.Proofs.Session.Lifecycle
import RecordMapper.Proofs.Session.Trail

/-!
# Failures that are recorded

* `TellsFailure`: the events of an operation tell whether it failed, and with which fault.
* `Operation.tellsFailure_turn_iff`: those of every operation of a connection do, but for one: the
  first end of a connection whose store has crashed before.

Every other operation fails within `Session.guarded`, which records each failure. The end of a
connection records a failure of the store by itself, and has left by then if the store has crashed
before.
-/

namespace RecordMapper

/-! ## Reports of a failure -/

namespace Event

/-- Whether an event is that of a failed operation. -/
def IsFailure (event : Event) : Prop :=
  event.name = "operation_failed"

/-- The event reports a fault: its words hold the kind of the fault, and its whole text. -/
structure Reports (event : Event) (fault : Fault) : Prop where
  isFailure : event.IsFailure
  level : event.level = .error
  message : ∃ front middle,
    event.message = some (front ++ fault.kind.label ++ middle ++ fault.message)

theorem reports_operationFailed (name : String) (table : Option String) (fault : Fault) :
    (operationFailed name table fault).Reports fault :=
  ⟨rfl, rfl, name ++ " (", "): ", rfl⟩

theorem not_isFailure_connectionClosed : ¬connectionClosed.IsFailure :=
  show "connection_closed" ≠ "operation_failed" by decide

end Event

theorem not_isFailure_of_announces {T : Option String → String → Prop} {told : List Event}
    {sent : List Exchange} (h : List.Forall₂ (Announces T) told sent) :
    ∀ event ∈ told, ¬event.IsFailure := by
  intro event hevent
  obtain ⟨exchange, -, hannounces⟩ := exists_of_mem_left h hevent
  cases hannounces with
  | execute => exact show "statement_executed" ≠ "operation_failed" by decide
  | query => exact show "query_executed" ≠ "operation_failed" by decide

variable {α ι : Type}

/-- The events of an operation tell how it ended. With a fault, the last one reports it and no other
is that of a failure. With an answer, none is. Nothing is said of a crash of the store. -/
structure TellsFailure (recorded : List Event) (result : Except Halt α) : Prop where
  failed : ∀ fault, result = .error (.fault fault) →
    ∃ told event, recorded = told ++ [event] ∧ event.Reports fault ∧
      ∀ other ∈ told, ¬other.IsFailure
  done : ∀ answer, result = .ok answer → ∀ event ∈ recorded, ¬event.IsFailure

theorem tellsFailure_ok {recorded : List Event} {answer : α}
    (h : ∀ event ∈ recorded, ¬event.IsFailure) :
    TellsFailure recorded (.ok answer) :=
  ⟨nofun, fun _ _ => h⟩

theorem tellsFailure_fault {told : List Event} (h : ∀ event ∈ told, ¬event.IsFailure)
    (name : String) (table : Option String) (fault : Fault) :
    TellsFailure (told ++ [.operationFailed name table fault])
      (.error (.fault fault) : Except Halt α) := by
  refine ⟨?_, nofun⟩
  rintro _ ⟨⟩
  exact ⟨told, _, rfl, Event.reports_operationFailed name table fault, h⟩

theorem tellsFailure_crash (recorded : List Event) :
    TellsFailure recorded (.error .crash : Except Halt α) :=
  ⟨nofun, nofun⟩

theorem not_tellsFailure_nil {fault : Fault} :
    ¬TellsFailure [] (.error (.fault fault) : Except Halt α) := by
  intro h
  obtain ⟨told, event, hnil, -⟩ := h.failed fault rfl
  exact absurd hnil.symm (List.append_ne_nil_of_right_ne_nil told (List.cons_ne_nil _ _))

/-! ## Operations -/

namespace Operation

/-- An operation tells how it ended, unless it is the first end of a broken connection. -/
theorem Course.tellsFailure_iff {operation : Operation ι} {before : World}
    {result : Except Halt (Answer ι)} {sent : List Exchange} {recorded : List Event}
    (h : operation.Course before result sent recorded) :
    TellsFailure recorded result ↔
      ¬(operation = .close ∧ before.isClosed = false ∧ before.isPoisoned = true) := by
  cases h with
  | done hne htold =>
    exact iff_of_true (tellsFailure_ok (not_isFailure_of_announces htold)) fun h => hne h.1
  | failed hne htold =>
    have htells := @tellsFailure_fault (Answer ι) _ (not_isFailure_of_announces htold)
    exact iff_of_true (htells _ _ _) fun h => hne h.1
  | crashed hne => exact iff_of_true (tellsFailure_crash _) fun h => hne h.1
  | endAgain _ hclosed =>
    exact iff_of_true (tellsFailure_ok nofun) fun h => by simp [hclosed] at h
  | endPoisoned heq hopen hpoisoned =>
    exact iff_of_false not_tellsFailure_nil (not_not_intro ⟨heq, hopen, hpoisoned⟩)
  | endDone _ hsound =>
    have hnone : ∀ event ∈ [Event.connectionClosed], ¬event.IsFailure := fun event hevent =>
      List.mem_singleton.mp hevent ▸ Event.not_isFailure_connectionClosed
    exact iff_of_true (tellsFailure_ok hnone) fun h => by simp [hsound] at h
  | endRefused _ hsound =>
    have htells := @tellsFailure_fault (Answer ι) [] nofun
    exact iff_of_true (htells _ _ _) fun h => by simp [hsound] at h
  | endCrashed _ hsound =>
    exact iff_of_true (tellsFailure_crash _) fun h => by simp [hsound] at h

/-- An operation of a connection that was opened before the operations before it tells how it ended,
unless it is the first end and the store has crashed before. -/
theorem tellsFailure_turn_iff (family : ι → EntityDecl ι) (surroundings : Surroundings)
    (world : World) (hopen : world.isClosed = false) (hsound : world.isPoisoned = false)
    (operations : List (Operation ι)) (earlier : List (Turn ι)) (turn : Turn ι)
    (later : List (Turn ι))
    (hsplit : turns family surroundings world operations = earlier ++ turn :: later) :
    TellsFailure turn.recorded turn.result ↔
      ¬(turn.operation = .close ∧ (∀ other ∈ earlier, other.operation ≠ .close) ∧
        ∃ other ∈ earlier, other.crashed = true) := by
  have hmem : turn ∈ turns family surroundings world operations :=
    hsplit ▸ List.mem_append_right _ List.mem_cons_self
  have hclosed : turn.before.isClosed = false ↔ ∀ other ∈ earlier, other.operation ≠ .close := by
    rw [← Bool.not_eq_true, isClosed_before_iff hsplit hopen]
    simp only [not_exists, not_and, ne_eq]
  rw [← hclosed, ← isPoisoned_before_iff hsplit hsound]
  exact (taken_of_mem_turns hmem).course.tellsFailure_iff

/-- After a crash of the store a statement is refused, which is recorded. The first end is refused
as well, and that is not recorded. -/
theorem tellsFailure_turn_iff_crash :
    ∃ first second third fourth, turns nofun
        ⟨⟨.sqlite, [], rfl⟩, fun exchanges _ => if exchanges.isEmpty then .done [] else .crashed,
          fun _ => 0⟩ {}
        [(.execute "A" : Operation Empty), .execute "B", .query "C", .close] =
          [first, second, third, fourth] ∧
      second.crashed = true ∧
      TellsFailure third.recorded third.result ∧ ¬TellsFailure fourth.recorded fourth.result := by
  have htells := tellsFailure_turn_iff (nofun : Empty → EntityDecl Empty)
    ⟨⟨.sqlite, [], rfl⟩, fun exchanges _ => if exchanges.isEmpty then .done [] else .crashed,
      fun _ => 0⟩ {} rfl rfl [.execute "A", .execute "B", .query "C", .close]
  refine ⟨_, _, _, _, rfl, rfl, (htells [_, _] _ [_] rfl).mpr ?_,
    (htells [_, _, _] _ [] rfl).not.mpr (not_not_intro ⟨rfl, ?_, ?_⟩)⟩
  · rintro ⟨⟨⟩, -⟩
  · simp [turn]
  · exact ⟨_, List.mem_cons_of_mem _ List.mem_cons_self, rfl⟩

/-- The end that follows a crash fails and leaves no event. -/
theorem not_tellsFailure_close :
    ∃ first second, turns nofun ⟨⟨.sqlite, [], rfl⟩, fun _ _ => .crashed, fun _ => 0⟩ {}
        [(.execute "A" : Operation Empty), .close] = [first, second] ∧
      second.result = .error (.fault .connectionPoisoned) ∧ second.recorded = [] ∧
      ¬TellsFailure second.recorded second.result :=
  ⟨_, _, rfl, rfl, rfl, not_tellsFailure_nil⟩

end Operation

end RecordMapper
