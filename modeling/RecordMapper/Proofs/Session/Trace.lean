import RecordMapper.Proofs.Session.Use

/-!
# Traces

* `Session.Replied`: the replies of a trace are those of the store, which may depend on all that
  came before.
* `Session.Traces`: which exchanges a run adds, and how it ends after them.
* `Session.InTurn`, `Session.traces_mapM`: the traces of steps, one after the other up to the first
  that halts.
* `Session.Follows`, `Session.InTurn.follows`: calls that are planned ahead are sent in their order,
  up to where a run halts.

`Session.Leaves` and its kinds say what all exchanges of a run have in common. Here it is said which
exchanges there are, and in which order.
-/

namespace RecordMapper.Session

variable {α β : Type} {surroundings : Surroundings}

/-- Each reply is what the store makes of its call, after the exchanges before it. -/
def Replied (store : Store) : List Exchange → List Exchange → Prop
  | _, [] => True
  | history, exchange :: rest =>
    exchange.reply = store history exchange.call ∧ Replied store (history ++ [exchange]) rest

theorem Replied.append {store : Store} {history sent more : List Exchange}
    (h : Replied store history sent) (h' : Replied store (history ++ sent) more) :
    Replied store history (sent ++ more) := by
  induction sent generalizing history with
  | nil => rwa [List.append_nil] at h'
  | cons exchange rest ih =>
    refine ⟨h.1, ih h.2 ?_⟩
    rwa [List.append_assoc]

/-- The exchanges that a run adds to a world, and its end, satisfy `E`. -/
def TracesFrom (surroundings : Surroundings) (world : World) (session : Session α)
    (E : List Exchange → Except Halt α → Prop) : Prop :=
  ∃ sent, (session.run surroundings world).2.exchanges = world.exchanges ++ sent ∧
    Replied surroundings.store world.exchanges sent ∧ E sent (session.run surroundings world).1

/-- Wherever a run starts, the exchanges that it adds and its end satisfy `E`. -/
def Traces (surroundings : Surroundings) (session : Session α)
    (E : List Exchange → Except Halt α → Prop) : Prop :=
  ∀ world, TracesFrom surroundings world session E

section Traces

variable {x : Session α} {E D : List Exchange → Except Halt α → Prop}

theorem traces_mono (h : Traces surroundings x D)
    (hDE : ∀ sent result, D sent result → E sent result) : Traces surroundings x E := by
  intro world
  obtain ⟨sent, hsent, hreplied, hend⟩ := h world
  exact ⟨sent, hsent, hreplied, hDE _ _ hend⟩

theorem traces_pure {a : α} (h : E [] (.ok a)) : Traces surroundings (pure a) E :=
  fun _ => ⟨[], (List.append_nil _).symm, trivial, h⟩

theorem traces_fail {fault : Fault} (h : E [] (.error (.fault fault))) :
    Traces surroundings (fail fault) E :=
  fun _ => ⟨[], (List.append_nil _).symm, trivial, h⟩

theorem traces_bind {f : α → Session β} {E : List Exchange → Except Halt β → Prop}
    (hx : Traces surroundings x D)
    (hhalt : ∀ sent halt, D sent (.error halt) → E sent (.error halt))
    (hf : ∀ sent a, D sent (.ok a) →
      Traces surroundings (f a) fun more result => E (sent ++ more) result) :
    Traces surroundings (x >>= f) E := by
  intro world
  obtain ⟨sent, hsent, hreplied, hend⟩ := hx world
  rw [TracesFrom, run_bind]
  rcases hrun : x.run surroundings world with ⟨result, world'⟩
  rw [hrun] at hsent hend
  cases result with
  | error halt => exact ⟨sent, hsent, hreplied, hhalt sent halt hend⟩
  | ok a =>
    obtain ⟨more, hmore, hreplied', hend'⟩ := hf sent a hend world'
    change world'.exchanges = _ at hsent
    rw [hsent] at hmore hreplied'
    exact ⟨sent ++ more, by rw [hmore, List.append_assoc], hreplied.append hreplied', hend'⟩

/-- A run that goes on with its result in a way that sends nothing. -/
theorem traces_bind_pure {f : α → β} {E : List Exchange → Except Halt β → Prop}
    (hx : Traces surroundings x fun sent result => E sent (f <$> result)) :
    Traces surroundings (x >>= fun a => pure (f a)) E := by
  refine traces_bind hx (fun _ _ h => h) fun sent a h => traces_pure ?_
  rwa [List.append_nil]

theorem traces_lift_bind {result : Except Fault β} {f : β → Session α}
    (hok : ∀ b, result = .ok b → Traces surroundings (f b) E)
    (hfail : ∀ fault, result = .error fault → E [] (.error (.fault fault))) :
    Traces surroundings (lift result >>= f) E := by
  cases result with
  | ok b => exact hok b rfl
  | error fault => exact traces_fail (hfail fault rfl)

theorem traces_read_bind {f : Surroundings → Session α}
    (h : Traces surroundings (f surroundings) E) : Traces surroundings (read >>= f) E :=
  h

theorem traces_dialect_bind {f : Dialect → Session α}
    (h : Traces surroundings (f surroundings.catalogue.dialect) E) :
    Traces surroundings (dialect >>= f) E :=
  h

theorem traces_send (call : Call) :
    Traces surroundings (send call) fun sent result =>
      ∃ reply, sent = [⟨call, reply⟩] ∧ result = Reply.result reply := by
  intro world
  rw [TracesFrom, run_send]
  exact ⟨_, rfl, ⟨rfl, trivial⟩, _, rfl, rfl⟩

/-- An event is no exchange. -/
theorem traces_record_bind {event : Event} {f : Unit → Session α}
    (h : Traces surroundings (f ()) E) : Traces surroundings (record event >>= f) E :=
  fun world => h { world with events := world.events ++ [event] }

theorem traces_query (table : Option String) (sql : String) :
    Traces surroundings (query table sql) fun sent result =>
      ∃ reply, sent = [⟨.query sql, reply⟩] ∧ result = Reply.result reply :=
  traces_record_bind (traces_send _)

theorem traces_execute (table : Option String) (sql : String) :
    Traces surroundings (execute table sql) fun sent result =>
      ∃ reply, sent = [⟨.execute sql, reply⟩] ∧ result = (fun _ => ()) <$> Reply.result reply := by
  refine traces_record_bind (traces_bind_pure ?_)
  refine traces_mono (traces_send _) ?_
  rintro sent _ ⟨reply, hsent, rfl⟩
  exact ⟨reply, hsent, rfl⟩

end Traces

/-! ## Steps in turn -/

/-- Steps that are taken one after the other, up to the first that halts. -/
inductive InTurn (E : α → List Exchange → Except Halt β → Prop) :
    List α → List Exchange → Except Halt (List β) → Prop
  | nil : InTurn E [] [] (.ok [])
  | cons {x : α} {xs : List α} {sent more : List Exchange} {b : β}
      {result : Except Halt (List β)} : E x sent (.ok b) → InTurn E xs more result →
      InTurn E (x :: xs) (sent ++ more) ((b :: ·) <$> result)
  | halt {x : α} {xs : List α} {sent : List Exchange} {halt : Halt} : E x sent (.error halt) →
      InTurn E (x :: xs) sent (.error halt)

theorem traces_mapM {E : α → List Exchange → Except Halt β → Prop} {f : α → Session β} {xs : List α}
    (hf : ∀ x ∈ xs, Traces surroundings (f x) (E x)) :
    Traces surroundings (xs.mapM f) (InTurn E xs) := by
  induction xs with
  | nil => exact traces_pure .nil
  | cons x xs ih =>
    obtain ⟨hx, hxs⟩ := List.forall_mem_cons.mp hf
    rw [List.mapM_cons]
    refine traces_bind hx (fun sent halt h => .halt h) fun sent b hb => ?_
    refine traces_bind_pure (traces_mono (ih hxs) fun more result hmore => ?_)
    exact .cons hb hmore

/-- The calls of a trace are those of a plan, or the first of them if the run halts. -/
structure Follows (plan : List Call) (sent : List Exchange) (result : Except Halt α) : Prop where
  starts : sent.map (·.call) <+: plan
  ends : ∀ a, result = .ok a → sent.map (·.call) = plan

theorem Follows.map {plan : List Call} {sent : List Exchange} {result : Except Halt α}
    (h : Follows plan sent result) (f : α → β) : Follows plan sent (f <$> result) where
  starts := h.starts
  ends _ hresult := by
    obtain ⟨a, ha, -⟩ := map_eq_ok.mp hresult
    exact h.ends a ha

namespace InTurn

variable {E : α → List Exchange → Except Halt β → Prop} {xs : List α} {sent : List Exchange}

/-- Where each step follows a plan, all of them follow the plans in turn. -/
theorem follows {plan : α → List Call} {result : Except Halt (List β)} (h : InTurn E xs sent result)
    (hplan : ∀ x ∈ xs, ∀ sent result, E x sent result → Follows (plan x) sent result) :
    Follows (xs.flatMap plan) sent result := by
  induction h with
  | nil => exact ⟨List.prefix_refl _, fun _ _ => rfl⟩
  | cons hx _ ih =>
    obtain ⟨hfirst, hrest⟩ := List.forall_mem_cons.mp hplan
    have hsent := (hfirst _ _ hx).ends _ rfl
    obtain ⟨hstarts, hends⟩ := ih hrest
    rw [List.flatMap_cons]
    constructor
    · rw [List.map_append, hsent]
      exact (List.prefix_append_right_inj _).mpr hstarts
    · intro bs hbs
      obtain ⟨more, hmore, -⟩ := map_eq_ok.mp hbs
      rw [List.map_append, hsent, hends more hmore]
  | halt hx =>
    have hfirst := hplan _ List.mem_cons_self _ _ hx
    exact ⟨hfirst.starts.trans (List.prefix_append _ _), nofun⟩

/-- The results of steps come from the members of the list, each from a part of the trace. -/
theorem forall₂ {bs : List β} (h : InTurn E xs sent (.ok bs)) :
    List.Forall₂ (fun x b => ∃ part, part <:+: sent ∧ E x part (.ok b)) xs bs := by
  generalize hresult : (.ok bs : Except Halt (List β)) = result at h
  induction h generalizing bs with
  | nil =>
    cases hresult
    exact .nil
  | @cons x xs sent more b result hx _ ih =>
    obtain ⟨bs, hbs, rfl⟩ := map_eq_ok.mp hresult.symm
    refine .cons ⟨sent, (List.prefix_append _ _).isInfix, hx⟩ ((ih hbs.symm).imp ?_)
    rintro y c ⟨part, hpart, hy⟩
    exact ⟨part, hpart.trans (List.suffix_append _ _).isInfix, hy⟩
  | halt => cases hresult

end InTurn

/-! ## Operations of an open connection -/

/-- An operation of an open connection sends what it runs sends, and ends like it. -/
theorem TracesFrom.guarded {operation : String} {table : Option String} {session : Session α}
    {world : World} {E : List Exchange → Except Halt α → Prop}
    (h : TracesFrom surroundings world session E) (hopen : world.isClosed = false)
    (hsound : world.isPoisoned = false) :
    TracesFrom surroundings world (Session.guarded operation table session) E := by
  obtain ⟨sent, hsent, hreplied, hend⟩ := h
  rw [TracesFrom, run_guarded, run_withStore hopen hsound]
  rcases hrun : session.run surroundings world with ⟨(_ | _) | _, world'⟩ <;>
    rw [hrun] at hsent hend <;> exact ⟨sent, hsent, hreplied, hend⟩

end RecordMapper.Session
