import RecordMapper.Proofs.Runs
import RecordMapper.Session.Connection

/-!
# What sessions leave behind

* `Session.run_bind`, `Session.run_tryCatch`: how runs are put together.
* `Footprint`, `Session.Leaves`: what a run adds to the exchanges and the events before it, and how
  it ends.
* `Session.Checks`, `Session.Settles`: runs that only look at what they are given, and runs that
  find no fault with it any more. A run of the second kind stops at the first call that is not done.
* `Session.ChecksFirst`: runs that do the one before the other.
* `Session.Sends`, `Session.Silent`: runs that send calls of one kind only, or none.

The lemmas of each kind follow the way in which sessions are put together.
-/

namespace RecordMapper

/-! ## Additions to what was left behind -/

/-- What a run adds to the exchanges and the events before it. -/
structure Footprint where
  exchanges : List Exchange := []
  events : List Event := []

namespace Footprint

instance : Append Footprint := ⟨fun first second =>
  ⟨first.exchanges ++ second.exchanges, first.events ++ second.events⟩⟩

@[simp] theorem exchanges_append (first second : Footprint) :
    (first ++ second).exchanges = first.exchanges ++ second.exchanges := rfl

end Footprint

/-- One world comes from another by an addition. -/
structure World.Extends (world : World) (added : Footprint) (world' : World) : Prop where
  exchanges : world'.exchanges = world.exchanges ++ added.exchanges
  events : world'.events = world.events ++ added.events

namespace World.Extends

variable {world world' world'' : World}

theorem refl (world : World) : world.Extends {} world where
  exchanges := (List.append_nil _).symm
  events := (List.append_nil _).symm

theorem event (world : World) (event : Event) :
    world.Extends { events := [event] } { world with events := world.events ++ [event] } where
  exchanges := (List.append_nil _).symm
  events := rfl

theorem trans {first second : Footprint} (h : world.Extends first world')
    (h' : world'.Extends second world'') : world.Extends (first ++ second) world'' where
  exchanges := by rw [h'.exchanges, h.exchanges, List.append_assoc]; rfl
  events := by rw [h'.events, h.events, List.append_assoc]; rfl

end World.Extends

/-- How a call ends after a reply. -/
def Reply.result : Reply → Except Halt (List Row)
  | .done rows => .ok rows
  | .refused text => .error (.fault (.store text))
  | .crashed => .error .crash

namespace Session

variable {α β : Type} {surroundings : Surroundings} {world : World}

/-! ## Runs -/

theorem run_bind (x : Session α) (f : α → Session β) :
    (x >>= f).run surroundings world =
      match x.run surroundings world with
      | (.ok a, world') => (f a).run surroundings world'
      | (.error halt, world') => (.error halt, world') := by
  simp only [run, ReaderT.run_bind, ExceptT.run_bind, StateT.run_bind]
  rcases StateT.run (ExceptT.run (ReaderT.run x surroundings)) world with ⟨result, world'⟩
  cases result <;> rfl

theorem run_tryCatch (x : Session α) (f : Halt → Session α) :
    (tryCatch x f).run surroundings world =
      match x.run surroundings world with
      | (.ok a, world') => (.ok a, world')
      | (.error halt, world') => (f halt).run surroundings world' := by
  change (ExceptT.tryCatch (x surroundings) (fun halt => f halt surroundings)).run world = _
  simp only [run, ExceptT.tryCatch, ExceptT.run, ReaderT.run, StateT.run, ExceptT.mk, bind,
    StateT.bind]
  rcases x surroundings world with ⟨result, world'⟩
  cases result <;> rfl

theorem run_send (call : Call) :
    (send call).run surroundings world =
      ((surroundings.store world.exchanges call).result, { world with
        exchanges :=
          world.exchanges ++ [⟨call, surroundings.store world.exchanges call⟩] }) := by
  change (match surroundings.store world.exchanges call with
    | .done rows => pure rows
    | .refused text => fail (.store text)
    | .crashed => throw .crash : Session (List Row)).run surroundings { world with
      exchanges := world.exchanges ++ [⟨call, surroundings.store world.exchanges call⟩] } = _
  cases surroundings.store world.exchanges call <;> rfl

/-- Wherever a run starts, what it adds and how it ends satisfy `Q`. -/
def Leaves (surroundings : Surroundings) (session : Session α)
    (Q : Except Halt α → Footprint → Prop) : Prop :=
  ∀ world : World, ∃ added, world.Extends added (session.run surroundings world).2 ∧
    Q (session.run surroundings world).1 added

section Leaves

variable {x : Session α} {Q R : Except Halt α → Footprint → Prop}

theorem leaves_mono (h : Leaves surroundings x Q) (hQR : ∀ result added, Q result added →
    R result added) : Leaves surroundings x R := by
  intro world
  obtain ⟨added, hextends, hend⟩ := h world
  exact ⟨added, hextends, hQR _ _ hend⟩

theorem leaves_pure {a : α} (h : Q (.ok a) {}) : Leaves surroundings (pure a) Q :=
  fun world => ⟨{}, .refl world, h⟩

theorem leaves_fail {fault : Fault} (h : Q (.error (.fault fault)) {}) :
    Leaves surroundings (fail fault) Q :=
  fun world => ⟨{}, .refl world, h⟩

theorem leaves_throw {halt : Halt} (h : Q (.error halt) {}) :
    Leaves surroundings (throw halt) Q :=
  fun world => ⟨{}, .refl world, h⟩

theorem leaves_lift {result : Except Fault α} (hok : ∀ a, result = .ok a → Q (.ok a) {})
    (hfail : ∀ fault, result = .error fault → Q (.error (.fault fault)) {}) :
    Leaves surroundings (lift result) Q := by
  cases result with
  | ok a => exact leaves_pure (hok a rfl)
  | error fault => exact leaves_fail (hfail fault rfl)

theorem leaves_bind {f : α → Session β} {R : Except Halt β → Footprint → Prop}
    (hx : Leaves surroundings x Q)
    (hhalt : ∀ halt added, Q (.error halt) added → R (.error halt) added)
    (hf : ∀ a added, Q (.ok a) added →
      Leaves surroundings (f a) fun result more => R result (added ++ more)) :
    Leaves surroundings (x >>= f) R := by
  intro world
  obtain ⟨added, hextends, hend⟩ := hx world
  rw [run_bind]
  rcases hrun : x.run surroundings world with ⟨result, world'⟩
  rw [hrun] at hextends hend
  cases result with
  | error halt => exact ⟨added, hextends, hhalt halt added hend⟩
  | ok a =>
    obtain ⟨more, hmore, hend'⟩ := hf a added hend world'
    exact ⟨added ++ more, hextends.trans hmore, hend'⟩

theorem leaves_tryCatch {f : Halt → Session α} (hx : Leaves surroundings x Q)
    (hok : ∀ a added, Q (.ok a) added → R (.ok a) added)
    (hf : ∀ halt added, Q (.error halt) added →
      Leaves surroundings (f halt) fun result more => R result (added ++ more)) :
    Leaves surroundings (tryCatch x f) R := by
  intro world
  obtain ⟨added, hextends, hend⟩ := hx world
  rw [run_tryCatch]
  rcases hrun : x.run surroundings world with ⟨result, world'⟩
  rw [hrun] at hextends hend
  cases result with
  | ok a => exact ⟨added, hextends, hok a added hend⟩
  | error halt =>
    obtain ⟨more, hmore, hend'⟩ := hf halt added hend world'
    exact ⟨added ++ more, hextends.trans hmore, hend'⟩

theorem leaves_get_bind {f : World → Session α} (h : ∀ world, Leaves surroundings (f world) Q) :
    Leaves surroundings (get >>= f) Q :=
  fun world => h world world

theorem leaves_read_bind {f : Surroundings → Session α}
    (h : Leaves surroundings (f surroundings) Q) : Leaves surroundings (read >>= f) Q :=
  h

theorem leaves_record {event : Event} {Q : Except Halt Unit → Footprint → Prop}
    (h : Q (.ok ()) { events := [event] }) : Leaves surroundings (record event) Q :=
  fun _ => ⟨{ events := [event] }, ⟨(List.append_nil _).symm, rfl⟩, h⟩

theorem leaves_send (call : Call) :
    Leaves surroundings (send call) fun result added =>
      ∃ reply : Reply, result = reply.result ∧ added.exchanges = [⟨call, reply⟩] := by
  intro world
  refine ⟨{ exchanges := [⟨call, surroundings.store world.exchanges call⟩] }, ?_, ?_⟩
  · rw [run_send]
    exact ⟨rfl, (List.append_nil _).symm⟩
  · rw [run_send]
    exact ⟨_, rfl, rfl⟩

theorem leaves_query (table : Option String) (sql : String) :
    Leaves surroundings (query table sql) fun result added =>
      ∃ reply : Reply, result = reply.result ∧ added.exchanges = [⟨.query sql, reply⟩] := by
  have hrecord : Leaves surroundings (record (.queryExecuted table sql)) fun result added =>
      result = .ok () ∧ added.exchanges = [] := leaves_record ⟨rfl, rfl⟩
  refine leaves_bind hrecord (fun _ _ h => absurd h.1 nofun) fun _ added hadded => ?_
  refine leaves_mono (leaves_send (.query sql)) fun result more hmore => ?_
  rwa [Footprint.exchanges_append, hadded.2, List.nil_append]

end Leaves

/-! ## Calls that are done -/

/-- All calls are of a kind and were done. -/
def Answered (C : Call → Prop) (exchanges : List Exchange) : Prop :=
  ∀ exchange ∈ exchanges, C exchange.call ∧ ∃ rows, exchange.reply = .done rows

theorem answered_nil (C : Call → Prop) : Answered C [] := nofun

theorem Answered.append {C : Call → Prop} {first second : List Exchange} (h : Answered C first)
    (h' : Answered C second) : Answered C (first ++ second) := by
  intro exchange hexchange
  rcases List.mem_append.mp hexchange with hmem | hmem
  · exact h exchange hmem
  · exact h' exchange hmem

theorem Answered.mono {C D : Call → Prop} {exchanges : List Exchange} (h : Answered C exchanges)
    (hCD : ∀ call, C call → D call) : Answered D exchanges :=
  fun exchange hmem => ⟨hCD _ (h exchange hmem).1, (h exchange hmem).2⟩

/-- An end after calls of a kind. All of them were done but perhaps the last, and if that one was
not done, this is how the run ends. No fault is found any more with what the caller gave. -/
inductive Settled (C : Call → Prop) (P : α → Prop) : Except Halt α → List Exchange → Prop
  | done {a : α} {sent : List Exchange} : P a → Answered C sent → Settled C P (.ok a) sent
  | failed {fault : Fault} {sent : List Exchange} :
      fault.kind = .runtime → Answered C sent → Settled C P (.error (.fault fault)) sent
  | refused {call : Call} {text : String} {sent : List Exchange} : C call → Answered C sent →
      Settled C P (.error (.fault (.store text))) (sent ++ [⟨call, .refused text⟩])
  | crashed {call : Call} {sent : List Exchange} : C call → Answered C sent →
      Settled C P (.error .crash) (sent ++ [⟨call, .crashed⟩])

namespace Settled

variable {C D : Call → Prop} {P R : α → Prop} {result : Except Halt α} {sent more : List Exchange}

theorem append (h : Settled C P result more) (hsent : Answered C sent) :
    Settled C P result (sent ++ more) := by
  cases h with
  | done hP hmore => exact .done hP (hsent.append hmore)
  | failed hkind hmore => exact .failed hkind (hsent.append hmore)
  | refused hcall hmore =>
    rw [← List.append_assoc]
    exact .refused hcall (hsent.append hmore)
  | crashed hcall hmore =>
    rw [← List.append_assoc]
    exact .crashed hcall (hsent.append hmore)

theorem mono (h : Settled C P result sent) (hCD : ∀ call, C call → D call)
    (hPR : ∀ a, P a → R a) : Settled D R result sent := by
  cases h with
  | done hP hsent => exact .done (hPR _ hP) (hsent.mono hCD)
  | failed hkind hsent => exact .failed hkind (hsent.mono hCD)
  | refused hcall hsent => exact .refused (hCD _ hcall) (hsent.mono hCD)
  | crashed hcall hsent => exact .crashed (hCD _ hcall) (hsent.mono hCD)

/-- What a run was to give does not matter once it has ended without that. -/
theorem of_halt {halt : Halt} (h : Settled C P (.error halt) sent) (R : β → Prop) :
    Settled C R (.error halt) sent := by
  cases h with
  | failed hkind hsent => exact .failed hkind hsent
  | refused hcall hsent => exact .refused hcall hsent
  | crashed hcall hsent => exact .crashed hcall hsent

end Settled

/-- A run that sends calls of a kind, stops at the first that is not done, finds no fault with what
its caller gave, and gives results in `P`. -/
def Settles (surroundings : Surroundings) (C : Call → Prop) (session : Session α) (P : α → Prop) :
    Prop :=
  Leaves surroundings session fun result added => Settled C P result added.exchanges

section Settles

variable {C D : Call → Prop} {P R : α → Prop} {x : Session α}

theorem settles_mono (h : Settles surroundings C x P) (hCD : ∀ call, C call → D call)
    (hPR : ∀ a, P a → R a) : Settles surroundings D x R :=
  leaves_mono h fun _ _ hsettled => hsettled.mono hCD hPR

theorem settles_pure {a : α} (h : P a) : Settles surroundings C (pure a) P :=
  leaves_pure (.done h (answered_nil C))

theorem settles_fail {fault : Fault} (h : fault.kind = .runtime) :
    Settles surroundings C (fail fault) P :=
  leaves_fail (.failed h (answered_nil C))

theorem settles_lift {result : Except Fault α} (hfails : Fails result (·.kind = .runtime))
    (hP : ∀ a, result = .ok a → P a) : Settles surroundings C (lift result) P :=
  leaves_lift (fun a h => .done (hP a h) (answered_nil C))
    fun fault h => .failed (hfails fault h) (answered_nil C)

theorem settles_bind {f : α → Session β} {R : β → Prop} (hx : Settles surroundings C x P)
    (hf : ∀ a, P a → Settles surroundings C (f a) R) : Settles surroundings C (x >>= f) R := by
  refine leaves_bind hx (fun _ _ h => h.of_halt R) fun a added h => ?_
  cases h with
  | done hP hsent => exact leaves_mono (hf a hP) fun _ _ hmore => hmore.append hsent

theorem settles_mapM {Q : β → α → Prop} {ys : List β} {f : β → Session α}
    (hf : ∀ y ∈ ys, Settles surroundings C (f y) (Q y)) :
    Settles surroundings C (ys.mapM f) (List.Forall₂ Q ys) := by
  induction ys with
  | nil => exact settles_pure .nil
  | cons y ys ih =>
    obtain ⟨hy, hys⟩ := List.forall_mem_cons.mp hf
    rw [List.mapM_cons]
    refine settles_bind hy fun a ha => settles_bind (ih hys) fun as has => ?_
    exact settles_pure (.cons ha has)

theorem settles_dialect_bind {f : Dialect → Session α}
    (h : Settles surroundings C (f surroundings.catalogue.dialect) P) :
    Settles surroundings C (dialect >>= f) P :=
  h

theorem settles_send {call : Call} (hC : C call) :
    Settles surroundings C (send call) fun _ => True := by
  refine leaves_mono (leaves_send call) ?_
  rintro _ added ⟨reply, rfl, hadded⟩
  rw [hadded]
  -- the reply alone tells how the call ends
  cases reply with
  | done rows =>
    refine .done trivial fun exchange hexchange => ?_
    obtain rfl := List.mem_singleton.mp hexchange
    exact ⟨hC, rows, rfl⟩
  | refused text => exact @Settled.refused _ C _ call text [] hC (answered_nil C)
  | crashed => exact @Settled.crashed _ C _ call [] hC (answered_nil C)

/-- An event does not change how a run goes on. -/
theorem settles_record_bind {event : Event} {f : Unit → Session α}
    (h : Settles surroundings C (f ()) P) : Settles surroundings C (record event >>= f) P :=
  settles_bind (P := fun _ => True) (leaves_record (.done trivial (answered_nil C))) fun _ _ => h

theorem settles_query {table : Option String} {sql : String} (hC : C (.query sql)) :
    Settles surroundings C (query table sql) fun _ => True :=
  settles_record_bind (settles_send hC)

theorem settles_execute {table : Option String} {sql : String} (hC : C (.execute sql)) :
    Settles surroundings C (execute table sql) fun _ => True := by
  refine settles_record_bind (settles_bind (settles_send hC) fun _ _ => ?_)
  exact settles_pure trivial

end Settles

/-! ## Checks before calls -/

/-- An end without calls. A fault says that something that was given is not valid. -/
inductive Checked (P : α → Prop) : Except Halt α → List Exchange → Prop
  | passed {a : α} : P a → Checked P (.ok a) []
  | invalid {fault : Fault} :
      fault.kind = .invalidArgument → Checked P (.error (.fault fault)) []

namespace Checked

variable {P : α → Prop} {sent : List Exchange}

theorem eq_nil {result : Except Halt α} (h : Checked P result sent) : sent = [] := by
  cases h <;> rfl

theorem of_ok {a : α} (h : Checked P (.ok a) sent) : P a := by
  cases h with
  | passed hP => exact hP

end Checked

/-- A run that sends no call, but looks at what it is given. -/
def Checks (surroundings : Surroundings) (session : Session α) (P : α → Prop) : Prop :=
  Leaves surroundings session fun result added => Checked P result added.exchanges

/-- An end before all calls, because something that was given is not valid, or an end for which this
does not matter any more. -/
inductive CheckedFirst (C : Call → Prop) (P : α → Prop) : Except Halt α → List Exchange → Prop
  | invalid {fault : Fault} :
      fault.kind = .invalidArgument → CheckedFirst C P (.error (.fault fault)) []
  | settled {result : Except Halt α} {sent : List Exchange} :
      Settled C P result sent → CheckedFirst C P result sent

/-- A run that looks at all that it is given before it sends calls. -/
def ChecksFirst (surroundings : Surroundings) (C : Call → Prop) (session : Session α)
    (P : α → Prop) : Prop :=
  Leaves surroundings session fun result added => CheckedFirst C P result added.exchanges

section ChecksFirst

variable {C D : Call → Prop} {P R : α → Prop} {x : Session α}

theorem checksFirst_mono (h : ChecksFirst surroundings C x P) (hCD : ∀ call, C call → D call)
    (hPR : ∀ a, P a → R a) : ChecksFirst surroundings D x R := by
  refine leaves_mono h fun result added hend => ?_
  generalize added.exchanges = sent at hend ⊢
  cases hend with
  | invalid hkind => exact .invalid hkind
  | settled hsettled => exact .settled (hsettled.mono hCD hPR)

theorem checks_mono (h : Checks surroundings x P) (hPR : ∀ a, P a → R a) :
    Checks surroundings x R := by
  refine leaves_mono h fun result added hend => ?_
  generalize added.exchanges = sent at hend ⊢
  cases hend with
  | passed hP => exact .passed (hPR _ hP)
  | invalid hkind => exact .invalid hkind

theorem checks_lift {result : Except Fault α} (hfails : Fails result (·.kind = .invalidArgument)) :
    Checks surroundings (lift result) (result = .ok ·) :=
  leaves_lift (fun _ h => .passed h) fun fault h => .invalid (hfails fault h)

theorem checksFirst_of_settles (h : Settles surroundings C x P) :
    ChecksFirst surroundings C x P :=
  leaves_mono h fun _ _ hsettled => .settled hsettled

theorem checksFirst_bind {f : α → Session β} {R : β → Prop} (hx : Checks surroundings x P)
    (hf : ∀ a, P a → ChecksFirst surroundings C (f a) R) :
    ChecksFirst surroundings C (x >>= f) R := by
  refine leaves_bind hx (fun halt added h => ?_) fun a added h => ?_
  · generalize added.exchanges = sent at h ⊢
    cases h with
    | invalid hkind => exact .invalid hkind
  · have hnone := h.eq_nil
    refine leaves_mono (hf a h.of_ok) fun result more hmore => ?_
    rwa [Footprint.exchanges_append, hnone, List.nil_append]

theorem checksFirst_bind_settles {f : α → Session β} {R : β → Prop}
    (hx : ChecksFirst surroundings C x P) (hf : ∀ a, P a → Settles surroundings C (f a) R) :
    ChecksFirst surroundings C (x >>= f) R := by
  refine leaves_bind hx (fun halt added h => ?_) fun a added h => ?_
  · generalize added.exchanges = sent at h ⊢
    cases h with
    | invalid hkind => exact .invalid hkind
    | settled h => exact .settled (h.of_halt R)
  · cases h with
    | settled h =>
      cases h with
      | done hP hsent =>
        exact leaves_mono (hf a hP) fun _ _ hmore => .settled (hmore.append hsent)

end ChecksFirst

/-! ## Calls that are sent -/

/-- A run that sends no call and gives results in `P`. -/
def Silent (surroundings : Surroundings) (session : Session α) (P : α → Prop) : Prop :=
  Leaves surroundings session fun result added =>
    added.exchanges = [] ∧ ∀ a, result = .ok a → P a

/-- A run that sends calls of a kind only, however it ends. -/
def Sends (surroundings : Surroundings) (C : Call → Prop) (session : Session α) : Prop :=
  Leaves surroundings session fun _ added => ∀ exchange ∈ added.exchanges, C exchange.call

section Sends

variable {C : Call → Prop} {P : α → Prop} {x : Session α}

theorem Settled.calls {result : Except Halt α} {sent : List Exchange}
    (h : Settled C P result sent) : ∀ exchange ∈ sent, C exchange.call := by
  have hanswered : ∀ {answered : List Exchange} {last : Exchange}, Answered C answered →
      C last.call → ∀ exchange ∈ answered ++ [last], C exchange.call := by
    intro answered last h hlast exchange hexchange
    rcases List.mem_append.mp hexchange with hmem | hmem
    · exact (h exchange hmem).1
    · obtain rfl := List.mem_singleton.mp hmem
      exact hlast
  cases h with
  | done _ hsent | failed _ hsent => exact fun exchange hmem => (hsent exchange hmem).1
  | refused hcall hsent | crashed hcall hsent => exact hanswered hsent hcall

theorem silent_of_checks (h : Checks surroundings x P) : Silent surroundings x P := by
  refine leaves_mono h fun result added hend => ⟨hend.eq_nil, ?_⟩
  rintro a rfl
  exact hend.of_ok

theorem silent_lift (result : Except Fault α) :
    Silent surroundings (lift result) (result = .ok ·) := by
  cases result with
  | ok a =>
    refine leaves_pure ⟨rfl, ?_⟩
    rintro _ ⟨⟩
    rfl
  | error fault => exact leaves_fail ⟨rfl, nofun⟩

theorem silent_bind {f : α → Session β} {R : β → Prop} (hx : Silent surroundings x P)
    (hf : ∀ a, P a → Silent surroundings (f a) R) : Silent surroundings (x >>= f) R := by
  refine leaves_bind hx (fun halt added h => ⟨h.1, nofun⟩) fun a added h => ?_
  refine leaves_mono (hf a (h.2 a rfl)) fun result more hmore => ⟨?_, hmore.2⟩
  rw [Footprint.exchanges_append, h.1, hmore.1]
  rfl

theorem sends_of_checksFirst (h : ChecksFirst surroundings C x P) : Sends surroundings C x := by
  refine leaves_mono h fun result added hend => ?_
  generalize added.exchanges = sent at hend ⊢
  cases hend with
  | invalid => exact nofun
  | settled hsettled => exact hsettled.calls

theorem sends_of_silent (h : Silent surroundings x P) : Sends surroundings C x := by
  refine leaves_mono h fun result added hend => ?_
  rw [hend.1]
  exact nofun

theorem sends_bind {f : α → Session β} (hx : Sends surroundings C x)
    (hf : ∀ a, Sends surroundings C (f a)) : Sends surroundings C (x >>= f) := by
  refine leaves_bind hx (fun _ _ h => h) fun a added h => ?_
  refine leaves_mono (hf a) fun result more hmore exchange hexchange => ?_
  rcases List.mem_append.mp hexchange with hmem | hmem
  · exact h exchange hmem
  · exact hmore exchange hmem

theorem sends_bind_of_silent {f : α → Session β} (hx : Silent surroundings x P)
    (hf : ∀ a, P a → Sends surroundings C (f a)) : Sends surroundings C (x >>= f) := by
  refine leaves_bind hx (fun halt added h => ?_) fun a added h => ?_
  · rw [h.1]
    exact nofun
  · refine leaves_mono (hf a (h.2 a rfl)) fun result more hmore => ?_
    rwa [Footprint.exchanges_append, h.1, List.nil_append]

end Sends

/-! ## Operations of a connection -/

section Guarded

variable {Q : Except Halt α → List Exchange → Prop} {session : Session α}

theorem leaves_withStore (hclosed : Q (.error (.fault .connectionClosed)) [])
    (hpoisoned : Q (.error (.fault .connectionPoisoned)) [])
    (h : Leaves surroundings session fun result added => Q result added.exchanges) :
    Leaves surroundings (withStore session) fun result added => Q result added.exchanges := by
  refine leaves_get_bind fun world => ?_
  dsimp only
  split
  · exact leaves_fail hclosed
  · refine leaves_get_bind fun world => ?_
    split
    · exact leaves_fail hpoisoned
    · refine leaves_tryCatch h (fun _ _ hQ => hQ) fun halt added hQ => ?_
      have hrethrow : Q (.error halt) (added.exchanges ++ []) := by rwa [List.append_nil]
      split
      · exact fun world => ⟨{}, ⟨(List.append_nil _).symm, (List.append_nil _).symm⟩, hrethrow⟩
      · exact leaves_throw hrethrow

/-- The failures of an operation are recorded, and a connection that is of no use refuses it.
Neither sends a call. -/
theorem leaves_guarded {operation : String} {table : Option String}
    (hclosed : Q (.error (.fault .connectionClosed)) [])
    (hpoisoned : Q (.error (.fault .connectionPoisoned)) [])
    (h : Leaves surroundings session fun result added => Q result added.exchanges) :
    Leaves surroundings (guarded operation table session) fun result added =>
      Q result added.exchanges := by
  refine leaves_tryCatch (leaves_withStore hclosed hpoisoned h) (fun _ _ hQ => hQ) ?_
  intro halt added hQ
  have hrethrow : Q (.error halt) (added.exchanges ++ []) := by rwa [List.append_nil]
  cases halt with
  | fault fault =>
    have hrecord : Leaves surroundings (record (.operationFailed operation table fault))
        fun result more => result = .ok () ∧ more.exchanges = [] := leaves_record ⟨rfl, rfl⟩
    refine leaves_bind hrecord (fun _ _ h => absurd h.1 nofun) fun _ more hmore => ?_
    refine leaves_throw ?_
    rw [Footprint.exchanges_append, Footprint.exchanges_append, hmore.2]
    exact hrethrow
  | crash => exact leaves_throw hrethrow

end Guarded

end Session

end RecordMapper
