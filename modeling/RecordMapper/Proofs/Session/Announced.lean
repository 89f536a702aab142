import RecordMapper.Proofs.Session.Fetch
import RecordMapper.Proofs.Statement.Target

/-!
# Calls and the events before them

* `Announces`: an event that announces a call.
* `Session.Tells`: runs that announce each of their calls, in order, and record nothing else.
* `Session.tells_insert`, `Session.tells_select`, `Session.tells_update`, `Session.tells_delete`:
  the uses of a table do so, and name with each statement the table that its text is about.

Where a peer is looked up, this is the table of the peer.
-/

namespace RecordMapper

/-! ## Announcements -/

/-- An event announces a call. Which tables it may name for a statement is given. -/
inductive Announces (T : Option String → String → Prop) : Event → Exchange → Prop
  | execute {table : Option String} {sql : String} {reply : Reply} : T table sql →
      Announces T (.statementExecuted table sql) ⟨.execute sql, reply⟩
  | query {table : Option String} {sql : String} {reply : Reply} : T table sql →
      Announces T (.queryExecuted table sql) ⟨.query sql, reply⟩

/-- The table that is named is the one that the statement is about. -/
def NamesTarget (table : Option String) (sql : String) : Prop :=
  table.isSome = true ∧ targetTable? sql = table

theorem namesTarget_of_eq {table sql : String} (h : targetTable? sql = some table) :
    NamesTarget (some table) sql :=
  ⟨rfl, h⟩

theorem Record.table_of_setKey {record record' : Record} {key : String}
    (h : record.setKey key = .ok record') : record'.table = record.table := by
  rw [setKey] at h
  split at h
  · cases h
    rfl
  · cases h

namespace Session

variable {α β : Type} {surroundings : Surroundings} {T : Option String → String → Prop}
  {P R : α → Prop}

/-- What a run adds that announces each of its calls, and what it gives. -/
structure Told (T : Option String → String → Prop) (P : α → Prop) (result : Except Halt α)
    (added : Footprint) : Prop where
  calls : List.Forall₂ (Announces T) added.events added.exchanges
  result : ∀ a, result = .ok a → P a

/-- A run that announces each of its calls, records nothing else, and gives results in `P`. -/
def Tells (surroundings : Surroundings) (T : Option String → String → Prop) (session : Session α)
    (P : α → Prop) : Prop :=
  Leaves surroundings session (Told T P)

section Tells

variable {x : Session α}

theorem tells_mono (h : Tells surroundings T x P) (hPR : ∀ a, P a → R a) :
    Tells surroundings T x R :=
  leaves_mono h fun _ _ htold => ⟨htold.calls, fun a ha => hPR a (htold.result a ha)⟩

theorem tells_pure {a : α} (h : P a) : Tells surroundings T (pure a) P := by
  refine leaves_pure ⟨.nil, ?_⟩
  rintro _ ⟨⟩
  exact h

theorem tells_fail (fault : Fault) : Tells surroundings T (fail fault) P :=
  leaves_fail ⟨.nil, nofun⟩

theorem tells_lift (result : Except Fault α) :
    Tells surroundings T (lift result) (result = .ok ·) := by
  cases result with
  | ok a => exact tells_pure rfl
  | error fault => exact tells_fail fault

theorem tells_bind {f : α → Session β} {Q : β → Prop} (hx : Tells surroundings T x P)
    (hf : ∀ a, P a → Tells surroundings T (f a) Q) : Tells surroundings T (x >>= f) Q := by
  refine leaves_bind hx (fun halt added h => ⟨h.calls, nofun⟩) fun a added h => ?_
  refine leaves_mono (hf a (h.result a rfl)) fun result more hmore => ⟨?_, hmore.result⟩
  exact List.rel_append h.calls hmore.calls

theorem tells_mapM {f : β → Session α} {xs : List β}
    (hf : ∀ x, Tells surroundings T (f x) fun _ => True) :
    Tells surroundings T (xs.mapM f) fun _ => True := by
  induction xs with
  | nil => exact tells_pure trivial
  | cons x xs ih =>
    rw [List.mapM_cons]
    exact tells_bind (hf x) fun _ _ => tells_bind ih fun _ _ => tells_pure trivial

theorem tells_discard (h : Tells surroundings T x P) :
    Tells surroundings T (discard x) fun _ => ∃ a, P a :=
  tells_bind h fun a ha => tells_pure ⟨a, ha⟩

theorem tells_dialect_bind {f : Dialect → Session α}
    (h : Tells surroundings T (f surroundings.catalogue.dialect) P) :
    Tells surroundings T (dialect >>= f) P :=
  h

theorem tells_drawKey : Tells surroundings T drawKey fun _ => True :=
  fun _ => ⟨{}, ⟨(List.append_nil _).symm, (List.append_nil _).symm⟩, .nil, fun _ _ => trivial⟩

/-- A call behind the event that announces it. -/
theorem tells_record_send {event : Event} {call : Call}
    (h : ∀ reply, Announces T event ⟨call, reply⟩) :
    Tells surroundings T (record event >>= fun _ => send call) fun _ => True := by
  intro world
  change ∃ added, world.Extends added ((send call).run surroundings
    { world with events := world.events ++ [event] }).2 ∧ _
  rw [run_send]
  exact ⟨⟨[_], [event]⟩, ⟨rfl, rfl⟩, .cons (h _) .nil, fun _ _ => trivial⟩

theorem tells_execute {table : Option String} {sql : String} (h : T table sql) :
    Tells surroundings T (execute table sql) fun _ => True := by
  have hsplit : execute table sql =
      (record (.statementExecuted table sql) >>= fun _ => send (.execute sql)) >>= fun _ =>
        pure () := (bind_assoc _ _ _).symm
  rw [hsplit]
  exact tells_bind (tells_record_send fun _ => .execute h) fun _ _ => tells_pure trivial

theorem tells_query {table : Option String} {sql : String} (h : T table sql) :
    Tells surroundings T (query table sql) fun _ => True :=
  tells_record_send fun _ => .query h

end Tells

/-! ## Uses of a table -/

theorem targetTable?_byKey (dialect : Dialect) {table : String} (htable : Quotable table)
    (column key : String) :
    targetTable? ((Select.byKey table column key).render dialect) = some table :=
  Select.targetTable?_render dialect htable trivial

theorem tells_fetchPeer {target : Schema} (htarget : Quotable target.table) (relation : Relation)
    (column key : String) :
    Tells surroundings NamesTarget (fetchPeer target relation column key) fun _ => True := by
  have hnames := namesTarget_of_eq
    (targetTable?_byKey surroundings.catalogue.dialect htarget column key)
  refine tells_dialect_bind (tells_bind (tells_query hnames) fun rows _ => ?_)
  split
  · exact tells_pure trivial
  · exact tells_bind (tells_lift _) fun _ _ => tells_pure trivial
  · exact tells_fail _

/-- A peer is looked up in the table that its relation leads to. -/
theorem tells_resolve (table : String) (row : Row) (relation : Relation) :
    Tells surroundings NamesTarget (resolve table row relation) fun _ => True := by
  refine leaves_read_bind (tells_bind (tells_lift _) fun target hfound => ?_)
  have hmem := (Catalogue.schema?_eq_some.mp (Catalogue.requireTable_eq_ok.mp hfound)).1
  have htarget := Catalogue.quotable_table hmem
  split
  · split
    · exact tells_fail _
    · exact tells_pure trivial
    · exact tells_fetchPeer htarget _ _ _
  · split
    · exact tells_fetchPeer htarget _ _ _
    · exact tells_fail _

theorem tells_resolveAsked (table : String) (relations : NameSet) (row : Row)
    (relation : Relation) :
    Tells surroundings NamesTarget (resolveAsked table relations row relation) fun _ => True := by
  rw [resolveAsked]
  split
  · refine tells_bind (tells_resolve _ _ _) fun peer _ => ?_
    exact tells_bind (tells_lift _) fun _ _ => tells_pure trivial
  · exact tells_pure trivial

theorem tells_hydrate (schema : Schema) (columns relations : NameSet) (row : Row) :
    Tells surroundings NamesTarget (hydrate schema columns relations row) fun _ => True := by
  rw [hydrate_eq]
  refine tells_bind (tells_lift _) fun record _ => ?_
  exact tells_bind (tells_mapM fun relation => tells_resolveAsked _ _ _ _) fun _ _ =>
    tells_pure trivial

theorem tells_insert {record : Record} (htable : Quotable record.table) :
    Tells surroundings NamesTarget (insert record) fun _ => True := by
  refine tells_bind tells_drawKey fun key _ => tells_bind (tells_lift _) fun staged hstaged => ?_
  refine tells_bind (tells_lift _) fun made hmade => tells_dialect_bind ?_
  have hmadeTable : made.table = record.table := by
    rw [(Insert.ofRecord_eq_ok.mp hmade).2.2.2]
    exact Record.table_of_setKey hstaged
  have hinsert : targetTable? (made.render surroundings.catalogue.dialect) = some record.table := by
    rw [← hmadeTable] at htable ⊢
    exact Insert.targetTable?_render _ htable
  refine tells_bind (tells_execute (namesTarget_of_eq hinsert)) fun _ _ => tells_dialect_bind ?_
  have hreselect := targetTable?_byKey surroundings.catalogue.dialect htable instanceKeyColumn key
  refine tells_bind (tells_query (namesTarget_of_eq hreselect)) fun rows _ => ?_
  split
  · refine tells_bind (tells_hydrate _ _ _ _) fun stored _ => ?_
    refine tells_bind (tells_mapM fun link => ?_) fun _ _ => tells_pure trivial
    exact tells_bind (tells_lift _) fun _ _ => tells_pure trivial
  · exact tells_fail _

theorem tells_select {schema : Schema} (hschema : schema ∈ surroundings.catalogue.schemas)
    (request : Query) :
    Tells surroundings NamesTarget (select schema request) fun _ => True := by
  have hquotable := surroundings.catalogue.consistent.quotable hschema
  refine tells_bind (tells_lift _) fun made hmade => tells_dialect_bind ?_
  have hselect : targetTable? (made.render surroundings.catalogue.dialect) = some schema.table := by
    rw [(Query.select_of_ofQuery hmade).2]
    exact Select.targetTable?_render _ hquotable.table (hquotable.written_projectionOf request)
  refine tells_bind (tells_query (namesTarget_of_eq hselect)) fun rows _ => ?_
  exact tells_mapM fun row => tells_hydrate _ _ _ _

theorem tells_update {record : Record} (htable : Quotable record.table) (request : Query) :
    Tells surroundings NamesTarget (update record request) fun _ => True := by
  refine tells_bind (tells_lift _) fun made hmade => tells_dialect_bind ?_
  obtain ⟨-, -, -, hmadeTable, -⟩ := Update.ofRecord_eq_ok.mp hmade
  have hupdate : targetTable? (made.render surroundings.catalogue.dialect) = some record.table := by
    rw [← hmadeTable] at htable ⊢
    exact Update.targetTable?_render _ htable
  exact tells_execute (namesTarget_of_eq hupdate)

theorem tells_delete {schema : Schema} (htable : Quotable schema.table) (request : Query) :
    Tells surroundings NamesTarget (delete schema request) fun _ => True := by
  refine tells_bind (tells_lift _) fun made hmade => tells_dialect_bind ?_
  obtain ⟨condition, -, hmade⟩ := bind_eq_ok.mp hmade
  cases hmade
  exact tells_execute (namesTarget_of_eq (Delete.targetTable?_render _ htable))

end Session

end RecordMapper
