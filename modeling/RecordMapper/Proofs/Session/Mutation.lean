import RecordMapper.Proofs.Entity
import RecordMapper.Proofs.Hydration
import RecordMapper.Proofs.Session.History
import RecordMapper.Proofs.Statement.Admitted
import RecordMapper.Proofs.Statement.Mutation

/-!
# The rows that operations change

* `Record.Numbered`, `Record.exists_numbered`: the number of the row that a record stands for.
* `Operation.OwnRow`: the operations on the row that a record stands for.
* `Operation.intended_of_turns`: all rows of a table are changed only if the caller has confirmed
  that, and the operations on the row of a record send statements about that row only.
-/

namespace RecordMapper

/-! ## The row of a record -/

namespace Record

/-- The row number of a record, in its only primary column. -/
def Numbered (record : Record) (column : Column) (number : UInt32) : Prop :=
  record.fields.filter (·.1.isPrimary) = [(column, .present (.uint32 number))]

variable {record : Record}

theorem exists_filter_isPrimary (hconsistent : record.schema.Consistent) :
    ∃ field, record.fields.filter (·.1.isPrimary) = [field] := by
  have hcount : (record.fields.filter (·.1.isPrimary)).length = 1 := by
    rw [← List.countP_eq_length_filter, ← hconsistent.primary, schema, List.countP_map]
    rfl
  exact List.length_eq_one_iff.mp hcount

/-- The query for the row of a record asks for the number of the row. -/
theorem exists_numbered (hconsistent : record.schema.Consistent)
    (hfits : ∀ field ∈ record.fields, FieldFits field) {request : Query}
    (h : record.ownRow = .ok request) :
    ∃ column number, record.Numbered column number ∧
      request = .whereEqual column.name (.uint32 number) := by
  rw [ownRow] at h
  split at h
  · cases h
  · next column hprimary =>
    obtain ⟨cell, hcell, h⟩ := bind_eq_ok.mp h
    split at h
    · next value =>
      obtain ⟨field, hfield, hname, hcontent⟩ := cell_eq_ok hcell
      have hcolumn : column ∈ record.schema.columns := List.mem_of_find?_eq_some hprimary
      have hisPrimary : column.isPrimary = true := List.find?_some hprimary
      obtain rfl : field.1 = column :=
        hconsistent.eq_of_name (List.mem_map_of_mem hfield) hcolumn hname
      -- the primary column holds numbers
      have hkind := (hconsistent.kinds _ hcolumn).mp hisPrimary
      have htype := (hfits field hfield value hcontent).type
      rw [hkind] at htype
      cases value with
      | int32 | text => cases htype
      | uint32 number =>
        refine ⟨field.1, number, ?_, (Except.ok.inj h).symm⟩
        obtain ⟨only, honly⟩ := exists_filter_isPrimary hconsistent
        have hmem : field ∈ record.fields.filter (·.1.isPrimary) :=
          List.mem_filter.mpr ⟨hfield, hisPrimary⟩
        rw [honly, List.mem_singleton] at hmem
        rw [Numbered, honly, ← hmem, ← hcontent]
    · cases h

end Record

theorem Entity.fits_toRecord {ι : Type} {family : ι → EntityDecl ι} {entity : Entity ι}
    {record : Record} (h : entity.toRecord family = .ok record) :
    ∀ field ∈ record.fields, FieldFits field := by
  obtain ⟨type, fields, links, key⟩ := entity
  obtain ⟨made, hmade, h⟩ := bind_eq_ok.mp h
  obtain ⟨madeLinks, -, h⟩ := bind_eq_ok.mp h
  cases h
  intro field hfield
  obtain ⟨typed, -, hcheck⟩ := exists_of_mem_right (mapM_eq_ok.mp hmade) hfield
  obtain ⟨cell, hcell, rfl⟩ := map_eq_ok.mp hcheck
  obtain ⟨hfits, rfl⟩ := Column.checkCell_eq_ok.mp hcell
  exact hfits

/-- A query for a value of a column changes the rows with that value. -/
theorem Query.mutationFilter_whereEqual {schema : Schema} {mutation : Mutation} {name : String}
    {value : Value} {condition : Option Condition}
    (h : (whereEqual name value).mutationFilter schema mutation = .ok condition) :
    condition = some (.compare name .equal value.literal) := by
  obtain ⟨condition, hcheck, rfl⟩ := map_eq_ok.mp (condition_of_mutationFilter h)
  obtain ⟨-, operator, htoken, rfl⟩ := Predicate.check_compare_eq_ok.mp hcheck
  have hequal : operator = .equal := by
    have hparsed := congrArg Operator.ofToken? htoken
    rw [Operator.ofToken?_token] at hparsed
    exact Option.some.inj hparsed
  rw [hequal]

/-! ## Operations -/

/-- The text of a call, if it has one. -/
def Call.text? : Call → Option String
  | .execute sql | .query sql => some sql
  | .close => none

namespace Operation

open Session

variable {ι : Type} {family : ι → EntityDecl ι} {surroundings : Surroundings}

/-- Whether an operation sends a statement as it is given. -/
def isRaw : Operation ι → Bool
  | .execute _ | .query _ => true
  | _ => false

/-- The query whose rows an operation changes or removes. -/
def mutation? : Operation ι → Option Query
  | .updateEntities _ request | .removeEntities _ request
  | .updateRecords _ request | .removeRecords _ request => some request
  | _ => none

/-- The operations on the row that a record stands for. The record of an entity is made first, which
may fail. -/
inductive OwnRow (family : ι → EntityDecl ι) : Operation ι → Except Fault Record → Prop
  | updateEntity {entity : Entity ι} : entity.Declared family →
      OwnRow family (.updateEntity entity) (entity.toRecord family)
  | removeEntity {entity : Entity ι} : entity.Declared family →
      OwnRow family (.removeEntity entity) (entity.toRecord family)
  | updateRecord {record : Record} : record.Built →
      OwnRow family (.updateRecord record) (.ok record)
  | removeRecord {record : Record} : record.Built →
      OwnRow family (.removeRecord record) (.ok record)

/-- A statement about the row of a record: it would change all rows but for the condition at its
end, which is the number of the row. -/
def AboutRow (dialect : Dialect) (record : Record) (call : Call) : Prop :=
  ∃ column number front, record.Numbered column number ∧ ChangesAllRows dialect front ∧
    call = .execute
      (front ++ " WHERE (`" ++ column.name ++ "` = " ++ Decimal.ofNat number.toNat ++ ")")

/-! ## Changes of all rows -/

section Calls

variable {dialect : Dialect} {record : Record} {schema : Schema} {request : Query} {call : Call}
  {sql : String}

theorem confirmed_of_updates (h : Updates dialect record request call)
    (htext : call.text? = some sql) (hall : ChangesAllRows dialect sql) :
    request.predicate = none ∧ request.unconditional = true := by
  cases h with
  | execute hupdate =>
    cases htext
    obtain ⟨hcondition, -⟩ := Update.ofRecord_eq_ok.mp hupdate
    rw [(Update.changesAllRows_iff dialect _).mp hall] at hcondition
    exact Query.mutationFilter_eq_none hcondition

theorem confirmed_of_deletes (h : Deletes dialect schema request call)
    (htext : call.text? = some sql) (hall : ChangesAllRows dialect sql) :
    request.predicate = none ∧ request.unconditional = true := by
  cases h with
  | execute hdelete =>
    cases htext
    obtain ⟨condition, hcondition, hdelete⟩ := bind_eq_ok.mp hdelete
    cases hdelete
    obtain rfl : condition = none := (Delete.changesAllRows_iff dialect _).mp hall
    exact Query.mutationFilter_eq_none hcondition

theorem predicate_of_ownRow (h : record.ownRow = .ok request) : request.predicate ≠ none := by
  rw [Record.ownRow] at h
  split at h
  · cases h
  · obtain ⟨cell, -, h⟩ := bind_eq_ok.mp h
    split at h
    · cases h
      exact Option.some_ne_none _
    · cases h

theorem Allows.confirmed {catalogue : Catalogue} {operation : Operation ι}
    (h : operation.Allows family catalogue call) (hraw : operation.isRaw = false)
    (htext : call.text? = some sql) (hall : ChangesAllRows catalogue.dialect sql) :
    ∃ request, operation.mutation? = some request ∧ request.predicate = none ∧
      request.unconditional = true := by
  cases h with
  | insertEntity _ hcall | insertRecord hcall =>
    cases hcall with
    | execute =>
      cases htext
      exact absurd hall (Insert.not_changesAllRows _ _)
    | query =>
      cases htext
      exact absurd hall (Select.not_changesAllRows _ _)
  | selectEntities hcall | selectRecords hcall =>
    cases hcall
    cases htext
    exact absurd hall (Select.not_changesAllRows _ _)
  | updateEntities _ hcall | updateRecords hcall =>
    exact ⟨_, rfl, confirmed_of_updates hcall htext hall⟩
  | removeEntities hcall | removeRecords hcall =>
    exact ⟨_, rfl, confirmed_of_deletes hcall htext hall⟩
  | updateEntity _ _ hown hcall | updateRecord _ hown hcall =>
    exact absurd (confirmed_of_updates hcall htext hall).1 (predicate_of_ownRow hown)
  | removeEntity _ _ hown hcall | removeRecord _ hown hcall =>
    exact absurd (confirmed_of_deletes hcall htext hall).1 (predicate_of_ownRow hown)
  | execute | query => cases hraw
  | close => cases htext

/-! ## Changes of one row -/

/-- The condition that a record has its number is what the statement ends with. -/
theorem aboutRow_of_condition {front : String} {column : Column} {number : UInt32}
    (hnumbered : record.Numbered column number) (hfront : ChangesAllRows dialect front) :
    AboutRow dialect record (.execute (front ++ Condition.clause dialect
      (some (.compare column.name .equal (Value.uint32 number).literal)))) := by
  refine ⟨column, number, front, hnumbered, hfront, ?_⟩
  rw [Value.literal, Condition.clause_number]
  simp only [String.append_assoc]

theorem aboutRow_of_updates (hconsistent : record.schema.Consistent)
    (hfits : ∀ field ∈ record.fields, FieldFits field) (hown : record.ownRow = .ok request)
    (h : Updates dialect record request call) : AboutRow dialect record call := by
  obtain ⟨column, number, hnumbered, rfl⟩ := record.exists_numbered hconsistent hfits hown
  cases h with
  | @execute update hupdate =>
    obtain ⟨hcondition, -⟩ := Update.ofRecord_eq_ok.mp hupdate
    rw [Update.render_eq_append, Query.mutationFilter_whereEqual hcondition]
    exact aboutRow_of_condition hnumbered ((Update.changesAllRows_iff dialect _).mpr rfl)

theorem aboutRow_of_deletes (hconsistent : record.schema.Consistent)
    (hfits : ∀ field ∈ record.fields, FieldFits field) (hown : record.ownRow = .ok request)
    (h : Deletes dialect record.schema request call) : AboutRow dialect record call := by
  obtain ⟨column, number, hnumbered, rfl⟩ := record.exists_numbered hconsistent hfits hown
  cases h with
  | @execute delete hdelete =>
    obtain ⟨condition, hcondition, hdelete⟩ := bind_eq_ok.mp hdelete
    cases hdelete
    rw [Delete.render_eq_append, Query.mutationFilter_whereEqual hcondition]
    exact aboutRow_of_condition hnumbered ((Delete.changesAllRows_iff dialect _).mpr rfl)

end Calls

/-- What the operations on the row of a record send is about that row. -/
theorem Allows.aboutRow {catalogue : Catalogue} {operation : Operation ι} {call : Call}
    (h : operation.Allows family catalogue call) {staged : Except Fault Record}
    (hown : operation.OwnRow family staged) :
    ∃ record, staged = .ok record ∧ AboutRow catalogue.dialect record call := by
  have hconsistent : ∀ {record : Record}, record.schema ∈ catalogue.schemas →
      record.schema.Consistent := fun hmem => catalogue.consistent.each _ hmem
  cases hown with
  | updateEntity hdeclared =>
    cases h with
    | updateEntity hmem hrecord hrow hcall =>
      rw [← (hdeclared.schema_toRecord hrecord).1] at hmem
      exact ⟨_, hrecord, aboutRow_of_updates (hconsistent hmem) (Entity.fits_toRecord hrecord)
        hrow hcall⟩
  | removeEntity hdeclared =>
    cases h with
    | removeEntity hmem hrecord hrow hcall =>
      rw [← (hdeclared.schema_toRecord hrecord).1] at hmem
      exact ⟨_, hrecord, aboutRow_of_deletes (hconsistent hmem) (Entity.fits_toRecord hrecord)
        hrow hcall⟩
  | updateRecord hbuilt =>
    cases h with
    | updateRecord hmem hrow hcall =>
      exact ⟨_, rfl, aboutRow_of_updates (hconsistent hmem) hbuilt.fits hrow hcall⟩
  | removeRecord hbuilt =>
    cases h with
    | removeRecord hmem hrow hcall =>
      exact ⟨_, rfl, aboutRow_of_deletes (hconsistent hmem) hbuilt.fits hrow hcall⟩

end Operation

/-! ## Sequences of operations -/

namespace Operation

variable {ι : Type} {family : ι → EntityDecl ι} {catalogue : Catalogue} {operation : Operation ι}
  {before after : World} {result : Except Halt (Answer ι)}

theorem Transition.allows (h : operation.Transition family catalogue before result after)
    {exchange : Exchange} (hsent : exchange ∈ (Turn.mk operation before result after).sent) :
    operation.Allows family catalogue exchange.call := by
  cases h with
  | closed | poisoned | endAgain | endPoisoned => simp [Turn.sent] at hsent
  | used _ _ _ hextends huse =>
    rw [Turn.sent_of_extends hextends] at hsent
    exact huse.calls exchange hsent
  | endDone heq | endRefused heq | endCrashed heq =>
    simp only [Turn.sent, List.drop_left, List.mem_singleton] at hsent
    rw [hsent, heq]
    exact .close

/-- An operation for which there is no call to send fails. -/
theorem Transition.fails_of_not_allows
    (h : operation.Transition family catalogue before result after)
    (hnone : ∀ call, ¬ operation.Allows family catalogue call) :
    (Turn.mk operation before result after).sent = [] ∧
      ∃ fault, result = .error (.fault fault) := by
  have hsent : (Turn.mk operation before result after).sent = [] := by
    rw [List.eq_nil_iff_forall_not_mem]
    exact fun exchange hmem => hnone _ (h.allows hmem)
  refine ⟨hsent, ?_⟩
  cases h with
  | closed | poisoned | endPoisoned | endRefused => exact ⟨_, rfl⟩
  | endAgain heq | endDone heq | endCrashed heq =>
    rw [heq] at hnone
    exact absurd .close (hnone .close)
  | @used _ added _ _ _ _ hextends huse =>
    rw [Turn.sent_of_extends hextends] at hsent
    -- a crash would have been one of the store, and a result would have needed a call
    have hcrash : result ≠ .error .crash := by
      intro hresult
      obtain ⟨exchange, hmem, -⟩ := huse.crash.mp hresult
      rw [hsent] at hmem
      cases hmem
    match result, huse.result, hcrash with
    | .ok answer, hanswer, _ =>
      obtain ⟨call, hcall⟩ := hanswer answer rfl
      exact absurd hcall (hnone call)
    | .error .crash, _, hcrash => exact absurd rfl hcrash
    | .error (.fault fault), _, _ => exact ⟨fault, rfl⟩

/-- All rows of a table are changed or removed only for a query without a predicate that was
confirmed, whatever else was asked of it. The operations on the row of a record send statements
about that row only, and fail without a call where the record has no row number. -/
theorem intended_of_turns {ι : Type} (family : ι → EntityDecl ι) (surroundings : Surroundings)
    (world : World) (operations : List (Operation ι))
    (hraw : ∀ operation ∈ operations, operation.isRaw = false) :
    ∀ turn ∈ turns family surroundings world operations,
      (∀ exchange ∈ turn.sent, ∀ sql, exchange.call.text? = some sql →
        ChangesAllRows surroundings.catalogue.dialect sql →
          ∃ request, turn.operation.mutation? = some request ∧ request.predicate = none ∧
            request.unconditional = true ∧ ∀ steps, request = Query.ofSteps steps →
              .confirm ∈ steps ∧ ∀ predicate, .filter predicate ∉ steps) ∧
      ∀ staged, turn.operation.OwnRow family staged →
        (∀ exchange ∈ turn.sent, ∃ record, staged = .ok record ∧
          AboutRow surroundings.catalogue.dialect record exchange.call) ∧
        ((∀ record column number, staged = .ok record → ¬ record.Numbered column number) →
          turn.sent = [] ∧ ∃ fault, turn.result = .error (.fault fault)) := by
  intro turn hturn
  have htransition := (taken_of_mem_turns hturn).transition
  constructor
  · intro exchange hexchange sql htext hall
    have hmem : turn.operation ∈ operations := by
      rw [← map_operation_turns family surroundings world operations]
      exact List.mem_map_of_mem hturn
    obtain ⟨request, hrequest, hnone, hconfirmed⟩ :=
      (htransition.allows hexchange).confirmed (hraw _ hmem) htext hall
    refine ⟨request, hrequest, hnone, hconfirmed, ?_⟩
    rintro steps rfl
    exact ⟨(Query.unconditional_ofSteps steps).mp hconfirmed,
      (Query.predicate_ofSteps steps).mp hnone⟩
  · intro staged hown
    constructor
    · exact fun exchange hexchange => (htransition.allows hexchange).aboutRow hown
    · intro hunnumbered
      refine htransition.fails_of_not_allows fun call hcall => ?_
      obtain ⟨record, hrecord, column, number, -, hnumbered, -⟩ := hcall.aboutRow hown
      exact hunnumbered record column number hrecord hnumbered

/-- A person is removed by number, and then all persons are, under a limit that has no effect. -/
theorem intended_of_turns_persons :
    ∃ first second, turns (nofun : Empty → EntityDecl Empty)
        ⟨⟨.sqlite, Registry.population.schemas, rfl⟩, fun _ _ => .done [], fun _ => 0⟩ {}
        [.removeRecord (person.putCell "id" (.present (.uint32 7))),
          .removeRecords "person" (Query.ofSteps [.limit 1, .confirm])] = [first, second] ∧
      first.sent = [⟨.execute "DELETE FROM `person` WHERE (`id` = 7)", .done []⟩] ∧
      (∀ exchange ∈ first.sent,
        AboutRow .sqlite (person.putCell "id" (.present (.uint32 7))) exchange.call) ∧
      second.sent = [⟨.execute "DELETE FROM `person`", .done []⟩] ∧
      ∃ request, second.operation.mutation? = some request ∧ request.predicate = none ∧
        request.unconditional = true := by
  have hset : person.set "id" (.present (.uint32 7)) =
      .ok (person.putCell "id" (.present (.uint32 7))) := rfl
  have hbuilt := built_person.set hset
  have hintended := intended_of_turns (nofun : Empty → EntityDecl Empty)
    ⟨⟨.sqlite, Registry.population.schemas, rfl⟩, fun _ _ => .done [], fun _ => 0⟩ {}
    [.removeRecord (person.putCell "id" (.present (.uint32 7))),
      .removeRecords "person" (Query.ofSteps [.limit 1, .confirm])]
    (by simp [isRaw])
  have hfirst := hintended _ List.mem_cons_self
  have hsecond := hintended _ (List.mem_cons_of_mem _ List.mem_cons_self)
  refine ⟨_, _, rfl, rfl, ?_, rfl, ?_⟩
  · intro exchange hexchange
    obtain ⟨record, hrecord, habout⟩ := (hfirst.2 _ (.removeRecord hbuilt)).1 exchange hexchange
    obtain rfl := Except.ok.inj hrecord
    exact habout
  · have hall : ChangesAllRows .sqlite "DELETE FROM `person`" :=
      (Delete.changesAllRows_iff .sqlite ⟨"person", none⟩).mpr rfl
    obtain ⟨request, hrequest, hnone, hconfirmed, -⟩ :=
      hsecond.1 _ List.mem_cons_self _ rfl hall
    exact ⟨request, hrequest, hnone, hconfirmed⟩

end Operation

end RecordMapper
