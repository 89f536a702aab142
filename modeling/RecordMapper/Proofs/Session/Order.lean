import RecordMapper.Proofs.Hydration
import RecordMapper.Proofs.Session.Fetch

/-!
# Checks come before calls

* `Session.checksFirst_guarded`: an operation of a connection checks before it sends if what it runs
  does.
* `Operation.OnRecords`: the operations on records that were built, and on tables by their names.
* `Operation.OnRecords.faults_of_calls`: what the fault of such an operation says about its calls.
-/

namespace RecordMapper

namespace Session

variable {α : Type} {surroundings : Surroundings} {C : Call → Prop} {P : α → Prop}
  {result : Except Halt α} {sent : List Exchange}

/-! ## Faults and calls -/

theorem Answered.not_refused (h : Answered C sent) {exchange : Exchange} (hmem : exchange ∈ sent)
    (text : String) : exchange.reply ≠ .refused text := by
  obtain ⟨-, rows, hdone⟩ := h exchange hmem
  rw [hdone]
  nofun

namespace Settled

theorem store_iff (h : Settled C P result sent) (text : String) :
    result = .error (.fault (.store text)) ↔ ∃ exchange ∈ sent, exchange.reply = .refused text := by
  cases h with
  | done _ hsent =>
    refine ⟨nofun, ?_⟩
    rintro ⟨exchange, hmem, hrefused⟩
    exact absurd hrefused (hsent.not_refused hmem text)
  | failed hkind hsent =>
    constructor
    · rintro ⟨⟩
      cases hkind
    · rintro ⟨exchange, hmem, hrefused⟩
      exact absurd hrefused (hsent.not_refused hmem text)
  | @refused call text' sent _ hsent =>
    constructor
    · rintro ⟨⟩
      exact ⟨_, List.mem_append_right _ (List.mem_singleton.mpr rfl), rfl⟩
    · rintro ⟨exchange, hmem, hrefused⟩
      rcases List.mem_append.mp hmem with hsome | hlast
      · exact absurd hrefused (hsent.not_refused hsome text)
      · obtain rfl := List.mem_singleton.mp hlast
        cases hrefused
        rfl
  | crashed _ hsent =>
    refine ⟨nofun, ?_⟩
    rintro ⟨exchange, hmem, hrefused⟩
    rcases List.mem_append.mp hmem with hsome | hlast
    · exact absurd hrefused (hsent.not_refused hsome text)
    · obtain rfl := List.mem_singleton.mp hlast
      cases hrefused

theorem not_invalid (h : Settled C P result sent) {fault : Fault}
    (hresult : result = .error (.fault fault)) : fault.kind ≠ .invalidArgument := by
  cases h with
  | done => cases hresult
  | failed hkind =>
    cases hresult
    rw [hkind]
    nofun
  | refused =>
    cases hresult
    nofun
  | crashed => cases hresult

/-- Behind a call that was not done there is no other. -/
theorem eq_nil_of_refused (h : Settled C P result sent) {before after : List Exchange}
    {exchange : Exchange} (hsplit : sent = before ++ exchange :: after) {text : String}
    (hrefused : exchange.reply = .refused text) : after = [] := by
  -- all calls but the last were done, so only the last one can have been refused
  have hlast : ∀ {answered : List Exchange} {last : Exchange}, Answered C answered →
      answered ++ [last] = before ++ exchange :: after → after = [] := by
    intro answered last hanswered heq
    rcases List.eq_nil_or_concat after with hnil | ⟨init, final, rfl⟩
    · exact hnil
    · rw [List.concat_eq_append, ← List.cons_append, ← List.append_assoc] at heq
      obtain ⟨rfl, -⟩ := List.append_inj' heq rfl
      have hmem : exchange ∈ before ++ exchange :: init :=
        List.mem_append_right _ List.mem_cons_self
      exact absurd hrefused (hanswered.not_refused hmem text)
  cases h with
  | done _ hsent | failed _ hsent =>
    have hmem : exchange ∈ sent := by
      rw [hsplit]
      exact List.mem_append_right _ List.mem_cons_self
    exact absurd hrefused (hsent.not_refused hmem text)
  | refused _ hsent | crashed _ hsent => exact hlast hsent hsplit

end Settled

namespace CheckedFirst

theorem eq_nil_of_invalid (h : CheckedFirst C P result sent) {fault : Fault}
    (hresult : result = .error (.fault fault)) (hkind : fault.kind = .invalidArgument) :
    sent = [] := by
  cases h with
  | invalid => rfl
  | settled hsettled => exact absurd hkind (hsettled.not_invalid hresult)

theorem store_iff (h : CheckedFirst C P result sent) (text : String) :
    result = .error (.fault (.store text)) ↔ ∃ exchange ∈ sent, exchange.reply = .refused text := by
  cases h with
  | invalid hkind =>
    constructor
    · rintro ⟨⟩
      cases hkind
    · rintro ⟨_, hmem, -⟩
      cases hmem
  | settled hsettled => exact hsettled.store_iff text

theorem eq_nil_of_refused (h : CheckedFirst C P result sent) {before after : List Exchange}
    {exchange : Exchange} (hsplit : sent = before ++ exchange :: after) {text : String}
    (hrefused : exchange.reply = .refused text) : after = [] := by
  cases h with
  | invalid =>
    exact absurd hsplit.symm (List.append_ne_nil_of_right_ne_nil _ (List.cons_ne_nil _ _))
  | settled hsettled => exact hsettled.eq_nil_of_refused hsplit hrefused

end CheckedFirst

theorem checksFirst_guarded {operation : String} {table : Option String} {session : Session α}
    (h : ChecksFirst surroundings C session P) :
    ChecksFirst surroundings C (guarded operation table session) P := by
  have hnone : ∀ {fault : Fault}, fault.kind = .runtime →
      CheckedFirst C P (.error (.fault fault)) [] := fun hkind =>
    .settled (.failed hkind (answered_nil C))
  exact leaves_guarded (hnone rfl) (hnone rfl) h

theorem checks_discard {x : Session α} (h : Checks surroundings x P) :
    Checks surroundings (discard x) fun _ => ∃ a, P a := by
  refine leaves_bind h (fun halt added hend => ?_) fun a added hend => ?_
  · generalize added.exchanges = sent at hend ⊢
    cases hend with
    | invalid hkind => exact .invalid hkind
  · have hnone := hend.eq_nil
    apply leaves_pure
    rw [Footprint.exchanges_append, hnone]
    exact .passed ⟨a, hend.of_ok⟩

end Session

namespace Operation

open Session

variable {ι : Type} {surroundings : Surroundings}

/-! ## Operations on records -/

theorem checks_requireLayout (schema : Schema) :
    Checks surroundings (do lift ((← read).catalogue.requireLayout schema)) fun registered =>
      registered = schema ∧ schema ∈ surroundings.catalogue.schemas := by
  apply leaves_read_bind
  refine checks_mono (checks_lift (surroundings.catalogue.fails_requireLayout schema)) ?_
  intro registered hfound
  obtain ⟨hmem, rfl⟩ := Catalogue.requireLayout_eq_ok.mp hfound
  exact ⟨rfl, hmem⟩

theorem checks_requireTable (table : String) :
    Checks surroundings (requireTable table) fun schema =>
      schema ∈ surroundings.catalogue.schemas ∧ schema.table = table := by
  apply leaves_read_bind
  refine checks_mono (checks_lift (surroundings.catalogue.fails_requireTable table)) ?_
  intro schema hfound
  exact Catalogue.schema?_eq_some.mp (Catalogue.requireTable_eq_ok.mp hfound)

/-- The operations that know records and tables only. A record that is given was built. -/
inductive OnRecords : Operation ι → Prop
  | insertRecord {record : Record} : record.Built → OnRecords (.insertRecord record)
  | selectRecords (table : String) (query : Query) : OnRecords (.selectRecords table query)
  | updateRecords {record : Record} (query : Query) :
      record.Built → OnRecords (.updateRecords record query)
  | updateRecord {record : Record} : record.Built → OnRecords (.updateRecord record)
  | removeRecords (table : String) (query : Query) : OnRecords (.removeRecords table query)
  | removeRecord {record : Record} : record.Built → OnRecords (.removeRecord record)

theorem OnRecords.checksFirst (family : ι → EntityDecl ι) {operation : Operation ι}
    (h : operation.OnRecords) :
    ChecksFirst surroundings (fun _ => True) (operation.run family) fun _ => True := by
  have hany : ∀ {α : Type} {C : Call → Prop} {P : α → Prop} {session : Session α},
      ChecksFirst surroundings C session P →
        ChecksFirst surroundings (fun _ => True) session P := fun hsession =>
    checksFirst_mono hsession (fun _ _ => trivial) fun _ h => h
  cases h with
  | insertRecord hbuilt =>
    apply checksFirst_guarded
    refine checksFirst_bind (checks_discard (checks_requireLayout _)) ?_
    rintro _ ⟨_, rfl, hmem⟩
    refine checksFirst_bind_settles (hany (checksFirst_insert hmem hbuilt.linked)) fun _ _ => ?_
    exact settles_pure trivial
  | selectRecords table query =>
    apply checksFirst_guarded
    refine checksFirst_bind (checks_requireTable table) fun schema hschema => ?_
    refine checksFirst_bind_settles (hany (checksFirst_select hschema.1 query)) fun _ _ => ?_
    exact settles_pure trivial
  | updateRecords query hbuilt =>
    apply checksFirst_guarded
    refine checksFirst_bind (checks_discard (checks_requireLayout _)) fun _ _ => ?_
    refine checksFirst_bind_settles (hany (checksFirst_update _ query)) fun _ _ => ?_
    exact settles_pure trivial
  | updateRecord hbuilt =>
    apply checksFirst_guarded
    refine checksFirst_bind (checks_discard (checks_requireLayout _)) fun _ _ => ?_
    refine checksFirst_bind (checks_lift (Record.fails_ownRow _)) fun query _ => ?_
    refine checksFirst_bind_settles (hany (checksFirst_update _ query)) fun _ _ => ?_
    exact settles_pure trivial
  | removeRecords table query =>
    apply checksFirst_guarded
    refine checksFirst_bind (checks_requireTable table) fun schema _ => ?_
    refine checksFirst_bind_settles (hany (checksFirst_delete schema query)) fun _ _ => ?_
    exact settles_pure trivial
  | removeRecord hbuilt =>
    apply checksFirst_guarded
    refine checksFirst_bind (checks_requireLayout _) fun schema _ => ?_
    refine checksFirst_bind (checks_lift (Record.fails_ownRow _)) fun query _ => ?_
    refine checksFirst_bind_settles (hany (checksFirst_delete schema query)) fun _ _ => ?_
    exact settles_pure trivial

/-- An operation on records that fails with an invalid argument has sent no call. It fails with a
text of the store exactly if a call was refused with this text, and then that call is its last. -/
theorem OnRecords.faults_of_calls (family : ι → EntityDecl ι) {operation : Operation ι}
    (h : operation.OnRecords) (surroundings : Surroundings) (world : World) :
    ∃ sent, ((operation.run family).run surroundings world).2.exchanges = world.exchanges ++ sent ∧
      (∀ fault, ((operation.run family).run surroundings world).1 = .error (.fault fault) →
        fault.kind = .invalidArgument → sent = []) ∧
      (∀ text, ((operation.run family).run surroundings world).1 = .error (.fault (.store text)) ↔
        ∃ exchange ∈ sent, exchange.reply = .refused text) ∧
      ∀ before exchange after text, sent = before ++ exchange :: after →
        exchange.reply = .refused text → after = [] := by
  obtain ⟨added, hextends, hend⟩ := h.checksFirst family world
  refine ⟨added.exchanges, hextends.exchanges, ?_, hend.store_iff, ?_⟩
  · intro fault hresult hkind
    exact hend.eq_nil_of_invalid hresult hkind
  · intro before exchange after text hsplit hrefused
    exact hend.eq_nil_of_refused hsplit hrefused

/-- A store that refuses everything stops the insertion of a person at the first call. -/
theorem OnRecords.faults_of_calls_person :
    (Operation.insertRecord person : Operation Empty).OnRecords ∧
      ∃ sent, ((Operation.run nofun (.insertRecord person : Operation Empty)).run
          ⟨⟨.mariadb, Registry.population.schemas, rfl⟩, fun _ _ => .refused "full", fun _ => 0⟩
          {}).2.exchanges = sent ∧
        (∃ exchange ∈ sent, exchange.reply = .refused "full") ∧
        ∀ before exchange after text, sent = before ++ exchange :: after →
          exchange.reply = .refused text → after = [] := by
  have hrecords : (Operation.insertRecord person : Operation Empty).OnRecords :=
    .insertRecord built_person
  obtain ⟨sent, hsent, -, hstore, hlast⟩ := OnRecords.faults_of_calls nofun hrecords
    ⟨⟨.mariadb, Registry.population.schemas, rfl⟩, fun _ _ => .refused "full", fun _ => 0⟩ {}
  exact ⟨hrecords, sent, hsent, (hstore "full").mp rfl, hlast⟩

end Operation

end RecordMapper
