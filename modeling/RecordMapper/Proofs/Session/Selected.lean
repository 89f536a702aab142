import RecordMapper.Proofs.Hydration
import RecordMapper.Proofs.Session.Fetch
import RecordMapper.Proofs.Statement.Selection

/-!
# A selection asks for what is read

* `Session.hydrate_congr`: a row is read only in the columns that a query needs.
* `Session.missesInPeers_hydrate`: where a row has these columns, none is missing, unless in the row
  that the last lookup of a peer was answered with.
* `hydrate_of_selected`: both for the columns that a store returns for the text of the query.
* `not_hydrate_of_selected_passport`: a row of a peer may lack a column.
-/

namespace RecordMapper

/-! ## Columns that are read -/

theorem Record.keyOfRow_congr {row row' : Row}
    (h : row.get? instanceKeyColumn = row'.get? instanceKeyColumn) :
    keyOfRow row = keyOfRow row' := by
  rw [keyOfRow, keyOfRow, h]

theorem Record.ofRow_congr {schema : Schema} {query : Query} {row row' : Row}
    (h : ∀ name ∈ query.neededNames schema, row.get? name = row'.get? name) :
    ofRow schema query.columns row = ofRow schema query.columns row' := by
  have hfields : schema.columns.mapM (fieldOfRow schema.table query.columns row) =
      schema.columns.mapM (fieldOfRow schema.table query.columns row') := by
    refine mapM_congr_of_mem fun column hcolumn => ?_
    rw [fieldOfRow, fieldOfRow]
    split
    · next hread => rw [h _ (Query.column_mem_neededNames hcolumn hread)]
    · rfl
  rw [ofRow, ofRow, hfields, keyOfRow_congr (h _ Query.instanceKey_mem_neededNames)]

namespace Session

variable {schema : Schema} {query : Query} {row row' : Row}

theorem resolve_congr {relation : Relation} (hrelation : relation ∈ schema.relations)
    (hasked : relation.key ∈ query.relations)
    (h : ∀ name ∈ query.neededNames schema, row.get? name = row'.get? name) :
    resolve schema.table row relation = resolve schema.table row' relation := by
  unfold resolve
  cases hside : relation.side with
  | left =>
    have hkey := h _ (Query.relation_mem_neededNames hrelation hside hasked)
    dsimp only
    rw [hkey]
  | right =>
    have hkey := h _ Query.instanceKey_mem_neededNames
    dsimp only
    rw [Record.keyOfRow_congr hkey]

theorem resolveAsked_congr {relation : Relation} (hrelation : relation ∈ schema.relations)
    (h : ∀ name ∈ query.neededNames schema, row.get? name = row'.get? name) :
    resolveAsked schema.table query.relations row relation =
      resolveAsked schema.table query.relations row' relation := by
  by_cases hasked : relation.key ∈ query.relations
  · rw [resolveAsked, resolveAsked, if_pos hasked, if_pos hasked, resolve_congr hrelation hasked h]
  · rw [resolveAsked, resolveAsked, if_neg hasked, if_neg hasked]

/-- Rows that agree on what a query needs are read in the same way. -/
theorem hydrate_congr (h : ∀ name ∈ query.neededNames schema, row.get? name = row'.get? name) :
    hydrate schema query.columns query.relations row =
      hydrate schema query.columns query.relations row' := by
  have hlinks : schema.relations.mapM (resolveAsked schema.table query.relations row) =
      schema.relations.mapM (resolveAsked schema.table query.relations row') :=
    mapM_congr_of_mem fun relation hrelation => resolveAsked_congr hrelation h
  rw [hydrate_eq, hydrate_eq, Record.ofRow_congr h, hlinks]

end Session

/-! ## Columns that are missing -/

/-- A row lacks a column that is read from it. -/
theorem Record.missing_of_ofRow {schema : Schema} {columns : NameSet} {row : Row}
    {table name : String} (h : ofRow schema columns row = .error (.rowColumnMissing table name)) :
    table = schema.table ∧ row.get? name = none ∧ ∃ column ∈ schema.columns, column.name = name ∧
      (columns.isEmpty || decide (column.name ∈ columns)) = true := by
  have hfails : Fails (ofRow schema columns row) fun fault =>
      fault = .rowColumnMissing table name →
        table = schema.table ∧ row.get? name = none ∧ ∃ column ∈ schema.columns,
          column.name = name ∧ (columns.isEmpty || decide (column.name ∈ columns)) = true := by
    refine fails_bind (fails_mapM fun column hcolumn => ?_) fun _ => fails_ok
    rw [fieldOfRow]
    split
    · next hread =>
      split
      · apply fails_map
        refine fails_mono (column.fails_read _) ?_
        rintro _ ⟨cause, rfl⟩ hfault
        cases hfault
      · next hnone =>
        apply fails_error
        rintro ⟨⟩
        exact ⟨rfl, hnone, column, hcolumn, rfl, hread⟩
    · exact fails_ok
  exact hfails _ h rfl

namespace Session

/-- The last call looks the peer of a requested relation up, and the row that it is answered with
lacks a column of the table that it comes from. -/
def LacksPeerColumn (catalogue : Catalogue) (schema : Schema) (query : Query)
    (sent : List Exchange) (table name : String) : Prop :=
  ∃ relation ∈ schema.relations, relation.key ∈ query.relations ∧
    ∃ key row, row.get? name = none ∧
      sent.getLast? = some ⟨.query ((Select.byKey table relation.lookupColumn key).render
        catalogue.dialect), .done [row]⟩ ∧
      ∃ target ∈ catalogue.schemas, target.table = relation.targetTable ∧ target.table = table ∧
        ∃ declared ∈ target.columns, declared.name = name

/-- A run in which no column is missing but in rows of peers. -/
def MissesInPeers {α : Type} (surroundings : Surroundings) (schema : Schema) (query : Query)
    (session : Session α) : Prop :=
  Leaves surroundings session fun result added => ∀ table name,
    result = .error (.fault (.rowColumnMissing table name)) →
      LacksPeerColumn surroundings.catalogue schema query added.exchanges table name

section MissesInPeers

variable {α β : Type} {surroundings : Surroundings} {schema : Schema} {query : Query}
  {x : Session α} {f : α → Session β}

theorem missesInPeers_pure {a : α} : MissesInPeers surroundings schema query (pure a) :=
  leaves_pure nofun

theorem missesInPeers_fail {fault : Fault}
    (h : ∀ table name, fault ≠ .rowColumnMissing table name) :
    MissesInPeers surroundings schema query (fail fault : Session α) := by
  refine leaves_fail fun table name hfault => ?_
  cases hfault
  exact absurd rfl (h table name)

theorem missesInPeers_lift {result : Except Fault α}
    (h : ∀ table name, result ≠ .error (.rowColumnMissing table name)) :
    MissesInPeers surroundings schema query (lift result) := by
  cases result with
  | ok a => exact missesInPeers_pure
  | error fault => exact missesInPeers_fail fun table name hfault => h table name (hfault ▸ rfl)

theorem missesInPeers_bind (hx : MissesInPeers surroundings schema query x)
    (hf : ∀ a, MissesInPeers surroundings schema query (f a)) :
    MissesInPeers surroundings schema query (x >>= f) := by
  refine leaves_bind hx (fun halt added h table name hhalt => ?_) fun a added _ => ?_
  · cases hhalt
    exact h table name rfl
  · refine leaves_mono (hf a) fun result more h table name hresult => ?_
    obtain ⟨relation, hrelation, hasked, key, row, hnone, hlast, hdeclared⟩ := h table name hresult
    refine ⟨relation, hrelation, hasked, key, row, hnone, ?_, hdeclared⟩
    rw [Footprint.exchanges_append, List.getLast?_append, hlast, Option.some_or]

theorem missesInPeers_dialect_bind {f : Dialect → Session α}
    (h : MissesInPeers surroundings schema query (f surroundings.catalogue.dialect)) :
    MissesInPeers surroundings schema query (dialect >>= f) :=
  h

theorem missesInPeers_mapM {ys : List α}
    (hf : ∀ y ∈ ys, MissesInPeers surroundings schema query (f y)) :
    MissesInPeers surroundings schema query (ys.mapM f) := by
  induction ys with
  | nil => exact missesInPeers_pure
  | cons y ys ih =>
    obtain ⟨hy, hys⟩ := List.forall_mem_cons.mp hf
    rw [List.mapM_cons]
    exact missesInPeers_bind hy fun _ => missesInPeers_bind (ih hys) fun _ => missesInPeers_pure

end MissesInPeers

variable {surroundings : Surroundings} {schema : Schema} {query : Query} {row : Row}
  {relation : Relation}

theorem missesInPeers_fetchPeer (hrelation : relation ∈ schema.relations)
    (hasked : relation.key ∈ query.relations) (key : String) {target : Schema}
    (htarget : target ∈ surroundings.catalogue.schemas)
    (htable : target.table = relation.targetTable) :
    MissesInPeers surroundings schema query
      (fetchPeer target relation relation.lookupColumn key) := by
  refine missesInPeers_dialect_bind ?_
  refine leaves_bind (leaves_query _ _) ?_ ?_
  · rintro halt added ⟨reply, hresult, -⟩ table name hhalt
    cases hhalt
    cases reply <;> cases hresult
  · rintro rows added ⟨reply, hresult, hadded⟩
    have hreply : reply = .done rows := by
      cases reply with
      | done rows' => cases hresult; rfl
      | refused | crashed => cases hresult
    split
    · exact leaves_pure nofun
    · next row =>
      cases hpeer : Record.ofRow target .empty row with
      | ok peer => exact leaves_pure nofun
      | error fault =>
        refine leaves_fail fun table name hfault => ?_
        cases hfault
        obtain ⟨rfl, hnone, declared, hdeclared, hname, -⟩ := Record.missing_of_ofRow hpeer
        -- the row without the column is what the call for the peer was answered with
        refine ⟨relation, hrelation, hasked, key, row, hnone, ?_, target, htarget, htable, rfl,
          declared, hdeclared, hname⟩
        rw [Footprint.exchanges_append, hadded, hreply]
        rfl
    · exact leaves_fail nofun

theorem missesInPeers_resolve
    (hrow : ∀ name ∈ query.neededNames schema, row.contains name)
    (hrelation : relation ∈ schema.relations) (hasked : relation.key ∈ query.relations) :
    MissesInPeers surroundings schema query (resolve schema.table row relation) := by
  refine leaves_read_bind ?_
  cases htarget : surroundings.catalogue.requireTable relation.targetTable with
  | error fault =>
    refine missesInPeers_fail fun table name hfault => ?_
    have hkind := surroundings.catalogue.fails_requireTable _ fault htarget
    rw [hfault] at hkind
    cases hkind
  | ok target =>
    obtain ⟨hmem, htable⟩ := Catalogue.schema?_eq_some.mp (Catalogue.requireTable_eq_ok.mp htarget)
    have hpeer := fun key => missesInPeers_fetchPeer hrelation hasked key hmem htable
    rw [Relation.lookupColumn] at hpeer
    change MissesInPeers surroundings schema query _
    split
    · next hside =>
      have hkey := hrow _ (Query.relation_mem_neededNames hrelation hside hasked)
      obtain ⟨content, hcontent⟩ := Option.isSome_iff_exists.mp hkey
      rw [hcontent]
      cases content with
      | none => exact missesInPeers_pure
      | some key =>
        rw [hside] at hpeer
        exact hpeer key
    · next hside =>
      rw [hside] at hpeer
      split
      · exact hpeer _
      · refine missesInPeers_fail fun table name hfault => ?_
        cases hfault

theorem missesInPeers_resolveAsked
    (hrow : ∀ name ∈ query.neededNames schema, row.contains name)
    (hrelation : relation ∈ schema.relations) :
    MissesInPeers surroundings schema query
      (resolveAsked schema.table query.relations row relation) := by
  rw [resolveAsked]
  split
  · next hasked =>
    refine missesInPeers_bind (missesInPeers_resolve hrow hrelation hasked) fun peer => ?_
    refine missesInPeers_bind (missesInPeers_lift fun table name hcheck => ?_) fun _ =>
      missesInPeers_pure
    cases relation.fails_checkPeer peer _ hcheck
  · exact missesInPeers_pure

/-- Where a row has the columns that a query needs, only rows of peers lack columns. -/
theorem missesInPeers_hydrate
    (hrow : ∀ name ∈ query.neededNames schema, row.contains name) :
    MissesInPeers surroundings schema query (hydrate schema query.columns query.relations row) := by
  refine missesInPeers_bind (missesInPeers_lift fun table name hmissing => ?_) fun record => ?_
  · obtain ⟨-, hnone, column, hcolumn, rfl, hread⟩ := Record.missing_of_ofRow hmissing
    have hname := hrow _ (Query.column_mem_neededNames hcolumn hread)
    rw [Row.contains, hnone] at hname
    cases hname
  · have hlinks : MissesInPeers surroundings schema query
        (schema.relations.mapM (resolveAsked schema.table query.relations row)) :=
      missesInPeers_mapM fun relation hrelation => missesInPeers_resolveAsked hrow hrelation
    exact missesInPeers_bind hlinks fun _ => missesInPeers_pure

end Session

/-- What a reading asks for is what is read. A store returns for the text of a query the columns
that the text names or those of the definition of the table. Where a row has these, no column of it
is missing, though the row found for the peer of a requested relation may lack one, and whatever
else the row has does not matter for what becomes of it. -/
theorem hydrate_of_selected (catalogue : Catalogue) {schema : Schema}
    (hschema : schema ∈ catalogue.schemas) (dialect : Dialect) {query : Query} {select : Select}
    (hselect : Select.ofQuery schema query = .ok select) :
    ∃ names, Select.returned? (select.render dialect)
        ((CreateTable.ofSchema schema).render dialect) = some names ∧
      (∀ row surroundings world, surroundings.catalogue = catalogue →
        (∀ name ∈ names, row.contains name) →
        ∃ sent, ((Session.hydrate schema query.columns query.relations row).run surroundings
            world).2.exchanges = world.exchanges ++ sent ∧
          ∀ table name, ((Session.hydrate schema query.columns query.relations row).run surroundings
              world).1 = .error (.fault (.rowColumnMissing table name)) →
            Session.LacksPeerColumn catalogue schema query sent table name) ∧
      ∀ row row' surroundings world, (∀ name ∈ names, row.get? name = row'.get? name) →
        (Session.hydrate schema query.columns query.relations row).run surroundings world =
          (Session.hydrate schema query.columns query.relations row').run surroundings world := by
  have hquotable := catalogue.consistent.quotable hschema
  refine ⟨_, Select.returned?_render dialect hquotable hselect, ?_, ?_⟩
  · rintro row surroundings world rfl hrow
    obtain ⟨added, hextends, hmissing⟩ := Session.missesInPeers_hydrate hrow world
    exact ⟨added.exchanges, hextends.exchanges, hmissing⟩
  · intro row row' surroundings world hagree
    rw [Session.hydrate_congr hagree]

/-- The names of persons, with their passports. -/
def nameQuery : Query where
  columns := NameSet.empty.insert "name"
  relations := NameSet.empty.insert "passport"

/-- An age that is no number is not noticed where ages are not asked for. -/
theorem hydrate_of_selected_person :
    ∃ select, Select.ofQuery Registry.persons nameQuery = .ok select ∧
      Select.returned? (select.render .sqlite)
        ((CreateTable.ofSchema Registry.persons).render .sqlite) =
          some ["name", "__instance_key", "passport"] ∧
      (Session.hydrate Registry.persons nameQuery.columns nameQuery.relations
          ⟨[("name", some "N"), ("__instance_key", some "k"), ("passport", none),
            ("age", some "old")]⟩).run
        ⟨⟨.sqlite, Registry.population.schemas, rfl⟩, fun _ _ => .done [], fun _ => 0⟩ {} =
      (Session.hydrate Registry.persons nameQuery.columns nameQuery.relations
          ⟨[("passport", none), ("name", some "N"), ("__instance_key", some "k")]⟩).run
        ⟨⟨.sqlite, Registry.population.schemas, rfl⟩, fun _ _ => .done [], fun _ => 0⟩ {} := by
  have hselect : Select.ofQuery Registry.persons nameQuery = .ok {
      table := "person"
      projection := .names ["name", "__instance_key", "passport"] } := rfl
  obtain ⟨names, hnames, -, hagree⟩ := hydrate_of_selected
    ⟨.sqlite, Registry.population.schemas, rfl⟩ List.mem_cons_self .sqlite hselect
  have htext : Select.returned?
      (Select.render .sqlite ⟨"person", .names ["name", "__instance_key", "passport"], none, [],
        none, none⟩)
      ((CreateTable.ofSchema Registry.persons).render .sqlite) =
        some ["name", "__instance_key", "passport"] := by decide +kernel
  obtain rfl := Option.some.inj (htext.symm.trans hnames)
  refine ⟨_, hselect, htext, hagree _ _ _ _ ?_⟩
  decide

/-- The row of a person has all columns that are asked for. The one of the passport lacks a column,
and the person is not read. -/
theorem not_hydrate_of_selected_passport :
    ∃ select, Select.ofQuery Registry.persons nameQuery = .ok select ∧
      ∃ names, Select.returned? (select.render .sqlite)
          ((CreateTable.ofSchema Registry.persons).render .sqlite) = some names ∧
        ∃ row : Row, (∀ name ∈ names, row.contains name) ∧
          ((Session.hydrate Registry.persons nameQuery.columns nameQuery.relations row).run
            ⟨⟨.sqlite, Registry.population.schemas, rfl⟩,
              fun _ _ => .done [⟨[("__instance_key", some "p")]⟩], fun _ => 0⟩ {}).1 =
                .error (.fault (.rowColumnMissing "passport" "number")) := by
  refine ⟨_, rfl, ["name", "__instance_key", "passport"], by decide +kernel,
    ⟨[("name", some "N"), ("__instance_key", some "k"), ("passport", some "p")]⟩, by decide, rfl⟩

end RecordMapper
