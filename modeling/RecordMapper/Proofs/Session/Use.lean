import RecordMapper.Proofs.Session.Fetch
import RecordMapper.Proofs.Session.Triple

/-!
# Connections in use

* `Session.InUse`, `Session.Uses`: runs that use a connection and leave its state as it is. They
  send calls of a kind, and crash exactly if the store does.
* `Session.guardedEnd`, `Session.closeEnd`: how an operation of a connection ends, and its end.

Nothing is asked of the records and tables here: whatever a caller gives, a use of a table sends
these calls and no others.
-/

namespace RecordMapper

theorem Event.name_operationFailed_ne (operation : String) (table : Option String)
    (fault : Fault) :
    (Event.operationFailed operation table fault).name ≠ Event.connectionClosed.name :=
  show "operation_failed" ≠ "connection_closed" by decide

namespace Session

variable {α β : Type} {surroundings : Surroundings} {C D : Call → Prop} {P R : α → Prop}
  {session : Session α}

/-! ## Use of a connection -/

/-- What a run adds, and how it ends, while it uses a connection. -/
structure InUse (C : Call → Prop) (P : α → Prop) (result : Except Halt α) (added : Footprint) :
    Prop where
  calls : ∀ exchange ∈ added.exchanges, C exchange.call
  events : ∀ event ∈ added.events, event.name ≠ Event.connectionClosed.name
  crash : result = .error .crash ↔ ∃ exchange ∈ added.exchanges, exchange.reply = .crashed
  result : ∀ a, result = .ok a → P a

/-- A run that uses a connection, sends calls in `C` and gives results in `P`. -/
structure Uses (surroundings : Surroundings) (C : Call → Prop) (session : Session α)
    (P : α → Prop) : Prop where
  leaves : Leaves surroundings session (InUse C P)
  isClosed : ∀ world, (session.run surroundings world).2.isClosed = world.isClosed
  isPoisoned : ∀ world, (session.run surroundings world).2.isPoisoned = world.isPoisoned

namespace InUse

variable {result : Except Halt α} {added more : Footprint}

theorem of_not_crash (h : result ≠ .error .crash) (hP : ∀ a, result = .ok a → P a) :
    InUse C P result {} :=
  ⟨nofun, nofun, ⟨fun h' => absurd h' h, by rintro ⟨_, ⟨⟩, _⟩⟩, hP⟩

theorem append {a : β} {Q : β → Prop} (h : InUse C Q (.ok a) added)
    (h' : InUse C P result more) : InUse C P result (added ++ more) := by
  constructor
  case calls =>
    intro exchange hmem
    rcases List.mem_append.mp hmem with hmem | hmem
    · exact h.calls exchange hmem
    · exact h'.calls exchange hmem
  case events =>
    intro event hmem
    rcases List.mem_append.mp hmem with hmem | hmem
    · exact h.events event hmem
    · exact h'.events event hmem
  case crash =>
    have hnone : ¬ ∃ exchange ∈ added.exchanges, exchange.reply = .crashed := fun hcrash =>
      nomatch h.crash.mpr hcrash
    simp only [h'.crash, Footprint.exchanges_append, List.mem_append, or_and_right, exists_or,
      hnone, false_or]
  case result => exact h'.result

theorem record {event : Event} (h : InUse C P result added)
    (hevent : event.name ≠ Event.connectionClosed.name) :
    InUse C P result (added ++ { events := [event] }) := by
  constructor
  case calls => simpa using h.calls
  case events =>
    intro event' hmem
    rcases List.mem_append.mp hmem with hmem | hmem
    · exact h.events event' hmem
    · rwa [List.mem_singleton.mp hmem]
  case crash => simpa using h.crash
  case result => exact h.result

end InUse

theorem uses_mono (h : Uses surroundings C session P) (hCD : ∀ call, C call → D call)
    (hPR : ∀ a, P a → R a) : Uses surroundings D session R := by
  refine ⟨leaves_mono h.leaves fun result added huse => ?_, h.isClosed, h.isPoisoned⟩
  exact ⟨fun exchange hmem => hCD _ (huse.calls exchange hmem), huse.events, huse.crash,
    fun a hresult => hPR a (huse.result a hresult)⟩

theorem uses_pure {a : α} (h : P a) : Uses surroundings C (pure a) P := by
  refine ⟨leaves_pure (.of_not_crash nofun ?_), fun _ => rfl, fun _ => rfl⟩
  rintro _ ⟨⟩
  exact h

theorem uses_fail (fault : Fault) : Uses surroundings C (fail fault) P :=
  ⟨leaves_fail (.of_not_crash nofun nofun), fun _ => rfl, fun _ => rfl⟩

theorem uses_lift (result : Except Fault α) :
    Uses surroundings C (lift result) (result = .ok ·) := by
  cases result with
  | ok a => exact uses_pure rfl
  | error fault => exact uses_fail fault

theorem uses_bind {x : Session α} {f : α → Session β} {R : β → Prop}
    (hx : Uses surroundings C x P) (hf : ∀ a, P a → Uses surroundings C (f a) R) :
    Uses surroundings C (x >>= f) R := by
  -- the flags stay, whether or not the first part gives a result
  have hkeep : ∀ (flag : World → Bool),
      (∀ world, flag (x.run surroundings world).2 = flag world) →
      (∀ a, P a → ∀ world, flag ((f a).run surroundings world).2 = flag world) →
      ∀ world, flag ((x >>= f).run surroundings world).2 = flag world := by
    intro flag hfirst hsecond world
    obtain ⟨added, -, huse⟩ := hx.leaves world
    have hsame := hfirst world
    rw [run_bind]
    rcases hrun : x.run surroundings world with ⟨_ | a, world'⟩ <;> rw [hrun] at hsame huse
    · exact hsame
    · exact (hsecond a (huse.result a rfl) world').trans hsame
  constructor
  case leaves =>
    refine leaves_bind hx.leaves ?_ fun a added h => ?_
    · rintro halt added ⟨hcalls, hevents, hcrash, -⟩
      refine ⟨hcalls, hevents, ?_, nofun⟩
      rw [← hcrash, Except.error.injEq, Except.error.injEq]
    · exact leaves_mono (hf a (h.result a rfl)).leaves fun _ _ => h.append
  case isClosed => exact hkeep World.isClosed hx.isClosed fun a ha => (hf a ha).isClosed
  case isPoisoned => exact hkeep World.isPoisoned hx.isPoisoned fun a ha => (hf a ha).isPoisoned

theorem uses_mapM {f : β → Session α} {xs : List β}
    (hf : ∀ x, Uses surroundings C (f x) fun _ => True) :
    Uses surroundings C (xs.mapM f) fun _ => True := by
  induction xs with
  | nil => exact uses_pure trivial
  | cons x xs ih =>
    rw [List.mapM_cons]
    exact uses_bind (hf x) fun _ _ => uses_bind ih fun _ _ => uses_pure trivial

theorem uses_discard {x : Session α} (h : Uses surroundings C x P) :
    Uses surroundings C (discard x) fun _ => ∃ a, P a :=
  uses_bind h fun a ha => uses_pure ⟨a, ha⟩

theorem uses_dialect_bind {f : Dialect → Session α}
    (h : Uses surroundings C (f surroundings.catalogue.dialect) P) :
    Uses surroundings C (dialect >>= f) P where
  leaves := h.leaves
  isClosed := h.isClosed
  isPoisoned := h.isPoisoned

theorem uses_read_bind {f : Surroundings → Session α}
    (h : Uses surroundings C (f surroundings) P) : Uses surroundings C (read >>= f) P where
  leaves := leaves_read_bind h.leaves
  isClosed := h.isClosed
  isPoisoned := h.isPoisoned

theorem uses_drawKey : Uses surroundings C drawKey fun _ => True := by
  refine ⟨fun world => ⟨{}, ?_, .of_not_crash nofun fun _ _ => trivial⟩, fun _ => rfl,
    fun _ => rfl⟩
  exact ⟨(List.append_nil _).symm, (List.append_nil _).symm⟩

theorem uses_record {event : Event} (h : event.name ≠ Event.connectionClosed.name) :
    Uses surroundings C (record event) fun _ => True := by
  refine ⟨leaves_record ⟨nofun, ?_, ⟨nofun, ?_⟩, fun _ _ => trivial⟩, fun _ => rfl, fun _ => rfl⟩
  · intro event' hmem
    rwa [List.mem_singleton.mp hmem]
  · rintro ⟨_, ⟨⟩, _⟩

theorem uses_send {call : Call} (h : C call) :
    Uses surroundings C (send call) fun _ => True := by
  refine ⟨fun world => ?_, fun world => by rw [run_send], fun world => by rw [run_send]⟩
  rw [run_send]
  generalize surroundings.store world.exchanges call = reply
  refine ⟨{ exchanges := [⟨call, reply⟩] }, ⟨rfl, (List.append_nil _).symm⟩, ?_, nofun, ?_,
    fun _ _ => trivial⟩
  · intro exchange hmem
    rwa [List.mem_singleton.mp hmem]
  · simp only [List.mem_singleton, exists_eq_left]
    cases reply <;> simp [Reply.result]

theorem uses_execute {table : Option String} {sql : String} (h : C (.execute sql)) :
    Uses surroundings C (execute table sql) fun _ => True := by
  refine uses_bind (uses_record (show "statement_executed" ≠ "connection_closed" by decide)) ?_
  exact fun _ _ => uses_bind (uses_send h) fun _ _ => uses_pure trivial

theorem uses_query {table : Option String} {sql : String} (h : C (.query sql)) :
    Uses surroundings C (query table sql) fun _ => True := by
  refine uses_bind (uses_record (show "query_executed" ≠ "connection_closed" by decide)) ?_
  exact fun _ _ => uses_send h

/-! ## Uses of a table -/

theorem uses_fetchPeer (target : Schema) (relation : Relation) (column key : String) :
    Uses surroundings (Reads surroundings.catalogue.dialect)
      (fetchPeer target relation column key) fun _ => True := by
  refine uses_dialect_bind (uses_bind (uses_query (.query _)) fun rows _ => ?_)
  split
  · exact uses_pure trivial
  · exact uses_bind (uses_lift _) fun _ _ => uses_pure trivial
  · exact uses_fail _

theorem uses_resolve (table : String) (row : Row) (relation : Relation) :
    Uses surroundings (Reads surroundings.catalogue.dialect) (resolve table row relation)
      fun _ => True := by
  refine uses_read_bind (uses_bind (uses_lift _) fun target _ => ?_)
  split
  · split
    · exact uses_fail _
    · exact uses_pure trivial
    · exact uses_fetchPeer _ _ _ _
  · split
    · exact uses_fetchPeer _ _ _ _
    · exact uses_fail _

theorem uses_resolveAsked (table : String) (relations : NameSet) (row : Row) (relation : Relation) :
    Uses surroundings (Reads surroundings.catalogue.dialect)
      (resolveAsked table relations row relation) fun _ => True := by
  rw [resolveAsked]
  split
  · refine uses_bind (uses_resolve _ _ _) fun peer _ => ?_
    exact uses_bind (uses_lift _) fun _ _ => uses_pure trivial
  · exact uses_pure trivial

theorem uses_hydrate (schema : Schema) (columns relations : NameSet) (row : Row) :
    Uses surroundings (Reads surroundings.catalogue.dialect)
      (hydrate schema columns relations row) fun _ => True := by
  rw [hydrate_eq]
  refine uses_bind (uses_lift _) fun record _ => ?_
  exact uses_bind (uses_mapM fun relation => uses_resolveAsked _ _ _ _) fun _ _ => uses_pure trivial

theorem uses_insert (record : Record) :
    Uses surroundings (Inserts surroundings.catalogue.dialect record) (insert record)
      fun _ => ∃ call, Inserts surroundings.catalogue.dialect record call := by
  refine uses_bind uses_drawKey fun key _ => uses_bind (uses_lift _) fun staged hstaged => ?_
  refine uses_bind (uses_lift _) fun insert hinsert => uses_dialect_bind ?_
  refine uses_bind (uses_execute (.execute hstaged hinsert)) fun _ _ => uses_dialect_bind ?_
  refine uses_bind (uses_query (.query _)) fun rows _ => ?_
  split
  · refine uses_bind (uses_mono (uses_hydrate _ _ _ _) (fun _ h => h.inserts record)
      fun _ h => h) ?_
    intro stored _
    refine uses_bind (uses_mapM fun link => ?_) fun _ _ => uses_pure ⟨_, .execute hstaged hinsert⟩
    exact uses_bind (uses_lift _) fun _ _ => uses_pure trivial
  · exact uses_fail _

theorem uses_select (schema : Schema) (query : Query) :
    Uses surroundings (Reads surroundings.catalogue.dialect) (select schema query)
      fun _ => ∃ call, Reads surroundings.catalogue.dialect call := by
  refine uses_bind (uses_lift _) fun select _ => uses_dialect_bind ?_
  refine uses_bind (uses_query (.query _)) fun rows _ => ?_
  exact uses_mono (uses_mapM (uses_hydrate _ _ _)) (fun _ h => h) fun _ _ => ⟨_, .query select⟩

theorem uses_update (record : Record) (query : Query) :
    Uses surroundings (Updates surroundings.catalogue.dialect record query) (update record query)
      fun _ => ∃ call, Updates surroundings.catalogue.dialect record query call := by
  refine uses_bind (uses_lift _) fun update hupdate => uses_dialect_bind ?_
  exact uses_mono (uses_execute (.execute hupdate)) (fun _ h => h) fun _ _ => ⟨_, .execute hupdate⟩

theorem uses_delete (schema : Schema) (query : Query) :
    Uses surroundings (Deletes surroundings.catalogue.dialect schema query) (delete schema query)
      fun _ => ∃ call, Deletes surroundings.catalogue.dialect schema query call := by
  refine uses_bind (uses_lift _) fun delete hdelete => uses_dialect_bind ?_
  exact uses_mono (uses_execute (.execute hdelete)) (fun _ h => h) fun _ _ => ⟨_, .execute hdelete⟩

/-! ## Operations of a connection -/

theorem run_modify_bind (g : World → World) (f : Unit → Session α) (world : World) :
    (modify g >>= f).run surroundings world = (f ()).run surroundings (g world) := rfl

theorem run_discard (x : Session α) (world : World) :
    (discard x).run surroundings world =
      ((x.run surroundings world).1.map fun _ => (), (x.run surroundings world).2) := by
  change (x >>= fun _ => pure ()).run surroundings world = _
  rw [run_bind]
  rcases x.run surroundings world with ⟨_ | _, world'⟩ <;> rfl

theorem run_withStore_of_closed {session : Session α} {world : World}
    (h : world.isClosed = true) :
    (withStore session).run surroundings world = (.error (.fault .connectionClosed), world) := by
  rw [withStore, run_get_bind]
  dsimp only
  rw [if_pos h]
  rfl

theorem run_withStore_of_poisoned {session : Session α} {world : World}
    (hopen : world.isClosed = false) (h : world.isPoisoned = true) :
    (withStore session).run surroundings world = (.error (.fault .connectionPoisoned), world) := by
  rw [withStore, run_get_bind]
  dsimp only
  rw [if_neg (by simp [hopen]), run_get_bind, if_pos h]
  rfl

theorem run_withStore {session : Session α} {world : World} (hopen : world.isClosed = false)
    (hsound : world.isPoisoned = false) :
    (withStore session).run surroundings world =
      match session.run surroundings world with
      | (.error .crash, world') => (.error .crash, { world' with isPoisoned := true })
      | ended => ended := by
  rw [withStore, run_get_bind]
  dsimp only
  rw [if_neg (by simp [hopen]), run_get_bind, if_neg (by simp [hsound]), run_tryCatch]
  rcases session.run surroundings world with ⟨(_ | _) | _, world'⟩ <;> rfl

theorem run_guarded {operation : String} {table : Option String} {session : Session α}
    {world : World} :
    (guarded operation table session).run surroundings world =
      match (withStore session).run surroundings world with
      | (.error (.fault fault), world') =>
        (.error (.fault fault), { world' with
          events := world'.events ++ [.operationFailed operation table fault] })
      | ended => ended := by
  rw [guarded, run_tryCatch]
  rcases (withStore session).run surroundings world with ⟨(_ | _) | _, world'⟩ <;> rfl

/-- How a guarded operation ends, by the state of the connection and by what it runs. -/
inductive GuardedEnd (surroundings : Surroundings) (operation : String) (table : Option String)
    (session : Session α) (world : World) : Except Halt α → World → Prop
  | closed : world.isClosed = true →
      GuardedEnd surroundings operation table session world (.error (.fault .connectionClosed))
        { world with
          events := world.events ++ [.operationFailed operation table .connectionClosed] }
  | poisoned : world.isClosed = false → world.isPoisoned = true →
      GuardedEnd surroundings operation table session world (.error (.fault .connectionPoisoned))
        { world with
          events := world.events ++ [.operationFailed operation table .connectionPoisoned] }
  | done {a : α} {world' : World} : world.isClosed = false → world.isPoisoned = false →
      session.run surroundings world = (.ok a, world') →
      GuardedEnd surroundings operation table session world (.ok a) world'
  | failed {fault : Fault} {world' : World} : world.isClosed = false → world.isPoisoned = false →
      session.run surroundings world = (.error (.fault fault), world') →
      GuardedEnd surroundings operation table session world (.error (.fault fault)) { world' with
        events := world'.events ++ [.operationFailed operation table fault] }
  | crashed {world' : World} : world.isClosed = false → world.isPoisoned = false →
      session.run surroundings world = (.error .crash, world') →
      GuardedEnd surroundings operation table session world (.error .crash)
        { world' with isPoisoned := true }

theorem guardedEnd (operation : String) (table : Option String) (session : Session α)
    (world : World) :
    GuardedEnd surroundings operation table session world
      ((guarded operation table session).run surroundings world).1
      ((guarded operation table session).run surroundings world).2 := by
  rw [run_guarded]
  cases hopen : world.isClosed with
  | true =>
    rw [run_withStore_of_closed hopen]
    exact .closed hopen
  | false =>
    cases hsound : world.isPoisoned with
    | true =>
      rw [run_withStore_of_poisoned hopen hsound]
      exact .poisoned hopen hsound
    | false =>
      rw [run_withStore hopen hsound]
      rcases hrun : session.run surroundings world with ⟨(fault | _) | answer, world'⟩
      · exact .failed hopen hsound hrun
      · exact .crashed hopen hsound hrun
      · exact .done hopen hsound hrun

/-! ## The end of a connection -/

theorem run_close_of_closed {world : World} (h : world.isClosed = true) :
    close.run surroundings world = (.ok (), world) := by
  rw [close, run_get_bind, if_pos h]
  rfl

theorem run_close_of_poisoned {world : World} (hopen : world.isClosed = false)
    (h : world.isPoisoned = true) :
    close.run surroundings world =
      (.error (.fault .connectionPoisoned), { world with isClosed := true }) := by
  rw [close, run_get_bind, if_neg (by simp [hopen]), run_modify_bind, run_get_bind]
  dsimp only
  rw [if_pos h]
  rfl

theorem run_close {world : World} (hopen : world.isClosed = false)
    (hsound : world.isPoisoned = false) :
    close.run surroundings world =
      match (send .close).run surroundings { world with isClosed := true } with
      | (.ok _, world') =>
        (.ok (), { world' with events := world'.events ++ [.connectionClosed] })
      | (.error (.fault fault), world') =>
        (.error (.fault fault), { world' with
          events := world'.events ++ [.operationFailed "close" none fault] })
      | (.error .crash, world') => (.error .crash, { world' with isPoisoned := true }) := by
  rw [close, run_get_bind, if_neg (by simp [hopen]), run_modify_bind, run_get_bind]
  dsimp only
  rw [if_neg (by simp [hsound]), run_bind, run_tryCatch, run_discard]
  rcases (send .close).run surroundings { world with isClosed := true } with
    ⟨(_ | _) | _, world'⟩ <;> rfl

/-- How the end of a connection ends, by the state of the connection and by the reply. -/
inductive CloseEnd (world : World) : Except Halt Unit → World → Prop
  | again : world.isClosed = true → CloseEnd world (.ok ()) world
  | poisoned : world.isClosed = false → world.isPoisoned = true →
      CloseEnd world (.error (.fault .connectionPoisoned)) { world with isClosed := true }
  | done {rows : List Row} : world.isClosed = false → world.isPoisoned = false →
      CloseEnd world (.ok ()) { world with
        exchanges := world.exchanges ++ [⟨.close, .done rows⟩]
        events := world.events ++ [.connectionClosed]
        isClosed := true }
  | refused {text : String} : world.isClosed = false → world.isPoisoned = false →
      CloseEnd world (.error (.fault (.store text))) { world with
        exchanges := world.exchanges ++ [⟨.close, .refused text⟩]
        events := world.events ++ [.operationFailed "close" none (.store text)]
        isClosed := true }
  | crashed : world.isClosed = false → world.isPoisoned = false →
      CloseEnd world (.error .crash) { world with
        exchanges := world.exchanges ++ [⟨.close, .crashed⟩]
        isClosed := true
        isPoisoned := true }

theorem closeEnd (world : World) :
    CloseEnd world (close.run surroundings world).1 (close.run surroundings world).2 := by
  cases hopen : world.isClosed with
  | true =>
    rw [run_close_of_closed hopen]
    exact .again hopen
  | false =>
    cases hsound : world.isPoisoned with
    | true =>
      rw [run_close_of_poisoned hopen hsound]
      exact .poisoned hopen hsound
    | false =>
      rw [run_close hopen hsound, run_send]
      cases surroundings.store world.exchanges .close with
      | done rows => exact .done hopen hsound
      | refused text => exact .refused hopen hsound
      | crashed => exact .crashed hopen hsound

end Session

end RecordMapper
