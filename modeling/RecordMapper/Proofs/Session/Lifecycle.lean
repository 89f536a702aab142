import RecordMapper.Proofs.Session.History

/-!
# The life of a connection

* `Turn.InLife`: how an operation goes, by the operations before it: whether one of them was an end,
  and whether the store crashed in one of them.
* `Operation.inLife_of_turns`: every operation of a connection goes like this, and in the whole life
  there is at most one end that the store sees and at most one that is recorded.
-/

namespace RecordMapper

variable {ι : Type} {family : ι → EntityDecl ι} {surroundings : Surroundings}

/-- Whether an operation is the end of a connection. -/
def Operation.isClose : Operation ι → Bool
  | .close => true
  | _ => false

theorem Operation.isClose_iff {operation : Operation ι} :
    operation.isClose = true ↔ operation = .close := by
  cases operation <;> simp [isClose]

theorem Operation.isClose_of_ne {operation : Operation ι} (h : operation ≠ .close) :
    operation.isClose = false := by
  rwa [← Bool.not_eq_true, isClose_iff]

namespace Turn

variable {turn : Turn ι}

/-- Whether the store crashed in a turn. -/
def crashed (turn : Turn ι) : Bool :=
  turn.sent.any (·.reply = .crashed)

/-- The turn ends with a fault of the connection, with the given words. -/
def FailsWith (turn : Turn ι) (words : String) : Prop :=
  ∃ fault, turn.result = .error (.fault fault) ∧ fault.kind = .runtime ∧ fault.detail = words

end Turn

/-! ## One operation -/

namespace Operation.Transition

open Turn

variable {catalogue : Catalogue} {operation : Operation ι} {before after : World}
  {result : Except Halt (Answer ι)}
  (h : operation.Transition family catalogue before result after)

include h

theorem isClosed_after : after.isClosed = (before.isClosed || operation.isClose) := by
  cases h with
  | closed hne hclosed | poisoned hne hclosed => simp [Operation.isClose_of_ne hne]
  | used hne hopen _ _ _ hafter => simp [Operation.isClose_of_ne hne, hopen, hafter]
  | endAgain heq hclosed => simp [hclosed]
  | endPoisoned heq | endDone heq | endRefused heq | endCrashed heq =>
    simp [Operation.isClose_iff.mpr heq]

theorem isPoisoned_after :
    after.isPoisoned = (before.isPoisoned || (Turn.mk operation before result after).crashed) := by
  cases h with
  | closed | poisoned | endAgain | endPoisoned | endDone | endRefused | endCrashed =>
    simp [crashed, sent]
  | used _ _ hsound hextends huse _ hafter =>
    rw [Bool.eq_iff_iff, hafter, huse.crash, hsound, Bool.false_or, crashed,
      sent_of_extends hextends, List.any_eq_true]
    simp

theorem sent_of_closed (hclosed : before.isClosed = true) :
    (Turn.mk operation before result after).sent = [] := by
  cases h with
  | closed | endAgain => simp [sent]
  | poisoned _ hopen | used _ hopen | endPoisoned _ hopen | endDone _ hopen | endRefused _ hopen
  | endCrashed _ hopen => exact absurd hclosed (by simp [hopen])

theorem sent_of_poisoned (hpoisoned : before.isPoisoned = true) :
    (Turn.mk operation before result after).sent = [] := by
  cases h with
  | closed | endAgain | poisoned | endPoisoned => simp [sent]
  | used _ _ hsound | endDone _ _ hsound | endRefused _ _ hsound | endCrashed _ _ hsound =>
    exact absurd hpoisoned (by simp [hsound])

theorem failsWith_of_closed (hclosed : before.isClosed = true) (hne : operation ≠ .close) :
    (Turn.mk operation before result after).FailsWith "connection is closed" := by
  cases h with
  | closed => exact ⟨_, rfl, rfl, rfl⟩
  | endAgain heq => exact absurd heq hne
  | poisoned _ hopen | used _ hopen | endPoisoned _ hopen | endDone _ hopen | endRefused _ hopen
  | endCrashed _ hopen => exact absurd hclosed (by simp [hopen])

theorem end_of_closed (hclosed : before.isClosed = true) (heq : operation = .close) :
    result = .ok .done ∧ (Turn.mk operation before result after).recorded = [] := by
  cases h with
  | endAgain => exact ⟨rfl, by simp [recorded]⟩
  | closed hne => exact absurd heq hne
  | poisoned _ hopen | used _ hopen | endPoisoned _ hopen | endDone _ hopen | endRefused _ hopen
  | endCrashed _ hopen => exact absurd hclosed (by simp [hopen])

/-- Even the first end of a broken connection fails. -/
theorem failsWith_of_poisoned (hopen : before.isClosed = false)
    (hpoisoned : before.isPoisoned = true) :
    (Turn.mk operation before result after).FailsWith "connection mutex poisoned" := by
  cases h with
  | poisoned | endPoisoned => exact ⟨_, rfl, rfl, rfl⟩
  | closed _ hclosed | endAgain _ hclosed => exact absurd hclosed (by simp_all)
  | used _ _ hsound | endDone _ _ hsound | endRefused _ _ hsound | endCrashed _ _ hsound =>
    exact absurd hpoisoned (by simp [hsound])

theorem sent_of_end (hopen : before.isClosed = false) (hsound : before.isPoisoned = false)
    (heq : operation = .close) :
    ∃ reply, (Turn.mk operation before result after).sent = [⟨.close, reply⟩] := by
  cases h with
  | endDone | endRefused | endCrashed => exact ⟨_, by simp [sent]; rfl⟩
  | closed hne | poisoned hne | used hne => exact absurd heq hne
  | endAgain _ hclosed => exact absurd hclosed (by simp_all)
  | endPoisoned _ _ hpoisoned => exact absurd hpoisoned (by simp_all)

/-- The end of a connection is recorded exactly if the store ended it. -/
theorem recorded_end_iff :
    (∃ event ∈ (Turn.mk operation before result after).recorded,
      event.name = Event.connectionClosed.name) ↔
      ∃ rows, ⟨.close, .done rows⟩ ∈ (Turn.mk operation before result after).sent := by
  cases h with
  | closed _ _ hname | poisoned _ _ _ hname | endRefused _ _ _ hname =>
    simpa [sent, recorded] using hname
  | endAgain | endPoisoned | endCrashed | endDone => simp [sent, recorded]
  | used hne _ _ hextends huse =>
    rw [sent_of_extends hextends, recorded_of_extends hextends]
    constructor
    · rintro ⟨event, hmem, hname⟩
      exact absurd hname (huse.events event hmem)
    · rintro ⟨rows, hmem⟩
      exact absurd rfl ((huse.calls _ hmem).ne_close hne)

theorem countP_sent_le :
    (Turn.mk operation before result after).sent.countP (·.call = .close) +
      before.isClosed.toNat ≤ after.isClosed.toNat := by
  cases h with
  | closed | poisoned | endAgain => simp [sent]
  | endPoisoned _ hopen | endDone _ hopen | endRefused _ hopen | endCrashed _ hopen =>
    simp [sent, hopen]
  | @used _ added _ hne hopen _ hextends huse =>
    have hnone : added.exchanges.countP (·.call = .close) = 0 := by
      rw [List.countP_eq_zero]
      intro exchange hmem
      simpa using (huse.calls exchange hmem).ne_close hne
    rw [sent_of_extends hextends, hnone, hopen]
    exact Nat.zero_le _

theorem countP_recorded_le :
    (Turn.mk operation before result after).recorded.countP
      (·.name = Event.connectionClosed.name) ≤
        (Turn.mk operation before result after).sent.countP (·.call = .close) := by
  cases h with
  | closed _ _ hname | poisoned _ _ _ hname | endRefused _ _ _ hname =>
    simp [sent, recorded, hname]
  | endAgain | endPoisoned | endCrashed | endDone => simp [sent, recorded]
  | @used _ added _ _ _ _ hextends huse =>
    have hnone : added.events.countP (·.name = Event.connectionClosed.name) = 0 := by
      rw [List.countP_eq_zero]
      intro event hmem
      simpa using huse.events event hmem
    rw [recorded_of_extends hextends, hnone]
    exact Nat.zero_le _

end Operation.Transition

namespace Turn

/-! ## Operations one after the other -/

/-- How an operation goes on a connection that was opened before the operations before it. -/
structure InLife (earlier : List (Turn ι)) (turn : Turn ι) : Prop where
  closed_before : turn.before.isClosed = true ↔ ∃ other ∈ earlier, other.operation = .close
  closed_after : turn.after.isClosed = true ↔
    ∃ other ∈ earlier ++ [turn], other.operation = .close
  -- behind the first end
  silent_of_closed : (∃ other ∈ earlier, other.operation = .close) → turn.sent = []
  fails_of_closed : (∃ other ∈ earlier, other.operation = .close) → turn.operation ≠ .close →
    turn.FailsWith "connection is closed"
  end_of_closed : (∃ other ∈ earlier, other.operation = .close) → turn.operation = .close →
    turn.result = .ok .done ∧ turn.recorded = []
  -- behind a crash of the store
  silent_of_crashed : (∃ other ∈ earlier, other.crashed = true) → turn.sent = []
  fails_of_crashed : (∃ other ∈ earlier, other.crashed = true) →
    (¬ ∃ other ∈ earlier, other.operation = .close) →
      turn.FailsWith "connection mutex poisoned"
  -- the first end
  sent_of_end : turn.operation = .close → (¬ ∃ other ∈ earlier, other.operation = .close) →
    (¬ ∃ other ∈ earlier, other.crashed = true) → ∃ reply, turn.sent = [⟨.close, reply⟩]
  recorded_end : (∃ event ∈ turn.recorded, event.name = "connection_closed") ↔
    ∃ rows, ⟨.close, .done rows⟩ ∈ turn.sent

end Turn

namespace Operation

open Turn

section Flags

variable {world : World} {operations : List (Operation ι)} {earlier later : List (Turn ι)}
  {turn : Turn ι} (hsplit : turns family surroundings world operations = earlier ++ turn :: later)

include hsplit

theorem isClosed_before_iff (hopen : world.isClosed = false) :
    turn.before.isClosed = true ↔ ∃ other ∈ earlier, other.operation = .close := by
  rw [flag_before (fun _ h => h.transition.isClosed_after) hsplit, hopen, Bool.false_or,
    List.any_eq_true]
  simp only [isClose_iff]

theorem isPoisoned_before_iff (hsound : world.isPoisoned = false) :
    turn.before.isPoisoned = true ↔ ∃ other ∈ earlier, other.crashed = true := by
  rw [flag_before (fun _ h => h.transition.isPoisoned_after) hsplit, hsound, Bool.false_or,
    List.any_eq_true]

end Flags

theorem inLife_of_split {world : World} {operations : List (Operation ι)}
    (hopen : world.isClosed = false) (hsound : world.isPoisoned = false)
    {earlier later : List (Turn ι)} {turn : Turn ι}
    (hsplit : turns family surroundings world operations = earlier ++ turn :: later) :
    turn.InLife earlier := by
  have hmem : turn ∈ turns family surroundings world operations :=
    hsplit ▸ List.mem_append_right _ List.mem_cons_self
  have hturn := (taken_of_mem_turns hmem).transition
  have hclosed := isClosed_before_iff hsplit hopen
  have hpoisoned := isPoisoned_before_iff hsplit hsound
  constructor
  case closed_before => exact hclosed
  case closed_after =>
    rw [hturn.isClosed_after, Bool.or_eq_true, hclosed, isClose_iff]
    simp [or_and_right, exists_or]
  case silent_of_closed => exact fun h => hturn.sent_of_closed (hclosed.mpr h)
  case fails_of_closed => exact fun h => hturn.failsWith_of_closed (hclosed.mpr h)
  case end_of_closed => exact fun h => hturn.end_of_closed (hclosed.mpr h)
  case silent_of_crashed => exact fun h => hturn.sent_of_poisoned (hpoisoned.mpr h)
  case fails_of_crashed =>
    intro hcrashed hfirst
    rw [← hclosed, Bool.not_eq_true] at hfirst
    exact hturn.failsWith_of_poisoned hfirst (hpoisoned.mpr hcrashed)
  case sent_of_end =>
    intro hend hfirst hnone
    rw [← hclosed, Bool.not_eq_true] at hfirst
    rw [← hpoisoned, Bool.not_eq_true] at hnone
    exact hturn.sent_of_end hfirst hnone hend
  case recorded_end => exact hturn.recorded_end_iff

/-- The life of a connection that is open at first. The store sees at most one end of it, and sees
one if it has not crashed before the first that is asked for. -/
theorem inLife_of_turns (family : ι → EntityDecl ι) (surroundings : Surroundings) (world : World)
    (hopen : world.isClosed = false) (hsound : world.isPoisoned = false)
    (operations : List (Operation ι)) :
    let life := turns family surroundings world operations
    let ends := (life.flatMap Turn.sent).countP (·.call = .close)
    (∀ earlier turn later, life = earlier ++ turn :: later → turn.InLife earlier) ∧
      ends ≤ 1 ∧
      (∀ earlier turn later, life = earlier ++ turn :: later → turn.operation = .close →
        (¬ ∃ other ∈ earlier, other.operation = .close) →
          (¬ ∃ other ∈ earlier, other.crashed = true) → ends = 1) ∧
      (life.flatMap Turn.recorded).countP (·.name = "connection_closed") ≤ 1 := by
  intro life ends
  have hlife : ∀ earlier turn later, life = earlier ++ turn :: later → turn.InLife earlier :=
    fun _ _ _ => inLife_of_split hopen hsound
  have hends : ends ≤ 1 := by
    have hcount : ends = (life.map fun turn => turn.sent.countP (·.call = .close)).sum :=
      List.countP_flatMap
    rw [hcount]
    have hstep : ∀ turn : Turn ι, turn.Taken family surroundings →
        turn.sent.countP (·.call = .close) + turn.before.isClosed.toNat ≤
          turn.after.isClosed.toNat := fun _ h => h.transition.countP_sent_le
    exact Nat.le_of_add_right_le (sum_turns_le hstep world operations)
  refine ⟨hlife, hends, ?_, ?_⟩
  · intro earlier turn later hsplit hclose hfirst hnone
    obtain ⟨reply, hsent⟩ := (hlife _ _ _ hsplit).sent_of_end hclose hfirst hnone
    have hmem : ⟨.close, reply⟩ ∈ life.flatMap Turn.sent := by
      rw [hsplit, List.flatMap_append, List.flatMap_cons, hsent]
      simp
    have hpos : 0 < ends := List.countP_pos_iff.mpr ⟨_, hmem, by simp⟩
    omega
  · rw [List.countP_flatMap]
    have hstep : ∀ turn : Turn ι, turn.Taken family surroundings →
        turn.recorded.countP (·.name = Event.connectionClosed.name) + turn.before.isClosed.toNat ≤
          turn.after.isClosed.toNat := by
      intro turn h
      have hrecorded := h.transition.countP_recorded_le
      exact Nat.le_trans (Nat.add_le_add_right hrecorded _) h.transition.countP_sent_le
    exact Nat.le_of_add_right_le (sum_turns_le hstep world operations)

/-- A store that crashes in the second operation is not reached again, and the first end fails. -/
theorem inLife_of_turns_crash :
    ∃ first second third fourth, turns nofun
        ⟨⟨.sqlite, [], rfl⟩, fun exchanges _ => if exchanges.isEmpty then .done [] else .crashed,
          fun _ => 0⟩ {}
        [(.execute "A" : Operation Empty), .execute "B", .close, .close] =
          [first, second, third, fourth] ∧
      second.crashed = true ∧ third.sent = [] ∧ third.FailsWith "connection mutex poisoned" ∧
      fourth.sent = [] ∧ fourth.result = .ok .done := by
  obtain ⟨hlife, -⟩ := inLife_of_turns (nofun : Empty → EntityDecl Empty)
    ⟨⟨.sqlite, [], rfl⟩, fun exchanges _ => if exchanges.isEmpty then .done [] else .crashed,
      fun _ => 0⟩ {} rfl rfl [.execute "A", .execute "B", .close, .close]
  have hthird := hlife [_, _] _ [_] rfl
  have hfourth := hlife [_, _, _] _ [] rfl
  have hcrashed := hthird.fails_of_crashed
    ⟨_, List.mem_cons_of_mem _ List.mem_cons_self, rfl⟩
    fun h => Bool.false_ne_true (hthird.closed_before.mpr h)
  have hsilent := hthird.silent_of_crashed ⟨_, List.mem_cons_of_mem _ List.mem_cons_self, rfl⟩
  have hended := hfourth.closed_before.mp rfl
  exact ⟨_, _, _, _, rfl, rfl, hsilent, hcrashed, hfourth.silent_of_closed hended,
    (hfourth.end_of_closed hended rfl).1⟩

end Operation

end RecordMapper
