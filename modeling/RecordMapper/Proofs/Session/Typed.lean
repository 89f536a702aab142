import Mathlib.Data.List.Dedup
import RecordMapper.Proofs.Entity
import RecordMapper.Proofs.Hydration
import RecordMapper.Proofs.Session.Order
import RecordMapper.Proofs.Session.Triple

/-!
# Selections of entities

* `Operation.RefusesBeforeCalls`: an operation that says of its arguments that they are invalid only
  as long as it has sent no call.
* `Operation.selectEntities_refusesBeforeCalls_iff`: a selection of entities does so exactly if the
  registered layouts of the peers it asks for cover the types of these peers.

Only the layout of the selected type is compared with the registered one. What is registered for the
types of its peers need not be what they declare, and that comes to light when a peer is read.
-/

namespace RecordMapper

variable {ι : Type}

/-- Wherever the operation fails with an invalid argument, it has sent no call. -/
def Operation.RefusesBeforeCalls (family : ι → EntityDecl ι) (catalogue : Catalogue)
    (operation : Operation ι) : Prop :=
  ∀ surroundings world fault, surroundings.catalogue = catalogue →
    ((operation.run family).run surroundings world).1 = .error (.fault fault) →
      fault.kind = .invalidArgument →
        ((operation.run family).run surroundings world).2.exchanges = world.exchanges

/-! ## Peers that are covered -/

namespace Session

variable {surroundings : Surroundings} {family : ι → EntityDecl ι} {type : ι}

theorem Hydrated.fails_ofRecord {relations : NameSet} {record : Record}
    (hschema : (family type).schema ∈ surroundings.catalogue.schemas)
    (h : Hydrated surroundings.catalogue (family type).schema relations record)
    (hcovers : ∀ relation ∈ (family type).relations, relation.1.key ∈ relations →
      ∀ target, surroundings.catalogue.schema? relation.1.targetTable = some target →
        target.Covers (family relation.2)) :
    Fails (Entity.ofRecord family record type) (·.kind = .runtime) := by
  have hconsistent := surroundings.catalogue.consistent.each _ hschema
  have howncovers : record.schema.Covers (family type) := by
    rw [h.schema_eq]
    exact (family type).covers_schema
  refine Entity.fails_ofRecord_of_covers howncovers ?_
  intro relation hrelation link hfound peer hpeer
  have hlink := List.mem_of_find?_eq_some hfound
  have hbeq := List.find?_some hfound
  have hkey : link.1.key = relation.1.key := beq_iff_eq.mp hbeq
  -- keys tell relations apart, so the peer was fetched from the table that the relation leads to
  have hdeclared : link.1 ∈ (family type).schema.relations := by
    rw [← h.schema_eq]
    exact List.mem_map_of_mem hlink
  have hrelation' : relation.1 ∈ (family type).schema.relations := List.mem_map_of_mem hrelation
  have hsame : link.1 = relation.1 :=
    List.inj_on_of_nodup_map hconsistent.nodup_keys hdeclared hrelation' hkey
  have hasked := h.asked link hlink peer hpeer
  obtain ⟨htarget, hbare⟩ := h.fetched link hlink peer hpeer
  rw [hsame] at hasked htarget
  have hpeercovers := hcovers relation hrelation hasked _ htarget
  refine Entity.fails_ofRecord_of_covers hpeercovers fun _ _ other hother peer' hpeer' => ?_
  rw [hbare other (List.mem_of_find?_eq_some hother)] at hpeer'
  cases hpeer'

theorem checksFirst_selectEntities {request : Query}
    (hcovers : ∀ select, Select.ofQuery (family type).schema request = .ok select →
      ∀ relation ∈ (family type).relations, relation.1.key ∈ request.relations →
        ∀ target, surroundings.catalogue.schema? relation.1.targetTable = some target →
          target.Covers (family relation.2)) :
    ChecksFirst surroundings (fun _ => True)
      ((Operation.selectEntities type request).run family) fun _ => True := by
  apply checksFirst_guarded
  refine checksFirst_bind (Operation.checks_requireLayout _) ?_
  rintro _ ⟨rfl, hschema⟩
  cases hselect : Select.ofQuery (family type).schema request with
  | error fault =>
    rw [select, hselect]
    exact leaves_fail (.invalid (Select.fails_ofQuery _ _ fault hselect))
  | ok made =>
    have hselected := checksFirst_mono (D := fun _ => True) (checksFirst_select hschema request)
      (fun _ _ => trivial) fun _ h => h
    refine checksFirst_bind_settles hselected fun records hrecords => ?_
    refine settles_bind (settles_mapM (Q := fun _ _ => True) fun record hrecord => ?_) fun _ _ => ?_
    · have hfails := (hrecords record hrecord).fails_ofRecord hschema (hcovers made hselect)
      exact settles_lift hfails fun _ _ => trivial
    · exact settles_pure trivial

end Session

/-! ## Peers that are not covered -/

/-- A row with all columns of a table, in which the declared columns are null and the others have
the text of an instance key. -/
def Schema.linkedRow (schema : Schema) : Row :=
  ⟨schema.storedNames.map fun name =>
    (name, if schema.columns.any (·.name == name) then none else some "k")⟩

/-- A row with the columns of all tables, all null. -/
def Catalogue.blankRow (catalogue : Catalogue) : Row :=
  ⟨(catalogue.schemas.flatMap (·.storedNames)).dedup.map fun name => (name, none)⟩

/-- A store that has one row for each question: one with links for the first, and blank ones for
the questions that follow. -/
def Catalogue.linkedStore (catalogue : Catalogue) (schema : Schema) : Store := fun exchanges _ =>
  .done [if exchanges.isEmpty then schema.linkedRow else catalogue.blankRow]

namespace Schema

variable {schema : Schema}

theorem get?_linkedRow_column {column : Column} (hcolumn : column ∈ schema.columns) :
    schema.linkedRow.get? column.name = some none := by
  have hname : column.name ∈ schema.storedNames :=
    List.mem_append_left _ (List.mem_map_of_mem hcolumn)
  have hany : (schema.columns.any (·.name == column.name)) = true :=
    List.any_eq_true.mpr ⟨column, hcolumn, beq_self_eq_true _⟩
  rw [linkedRow, Row.get?_map hname, if_pos hany]

theorem get?_linkedRow {name : String} (hname : name ∈ schema.storedNames)
    (hother : ∀ column ∈ schema.columns, column.name ≠ name) :
    schema.linkedRow.get? name = some (some "k") := by
  have hany : ¬ (schema.columns.any (·.name == name)) = true := by
    rw [List.any_eq_true]
    rintro ⟨column, hcolumn, hsame⟩
    exact hother column hcolumn (beq_iff_eq.mp hsame)
  rw [linkedRow, Row.get?_map hname, if_neg hany]

end Schema

theorem Record.exists_ofRow_blank {schema : Schema} {row : Row} (columns : NameSet)
    (h : ∀ column ∈ schema.columns, row.get? column.name = some none) :
    ∃ record, ofRow schema columns row = .ok record ∧ record.Blank := by
  let content : Column → Cell Value := fun column =>
    if columns.isEmpty || decide (column.name ∈ columns) then .null else .undefined
  refine ⟨{ empty schema with
    fields := schema.columns.map fun column => (column, content column), key := keyOfRow row }, ?_⟩
  constructor
  · refine ofRow_eq_ok.mpr ⟨?_, rfl, rfl, rfl⟩
    rw [mapM_eq_ok, List.forall₂_map_right_iff, List.forall₂_same]
    intro column hcolumn
    simp only [fieldOfRow, h column hcolumn, content]
    split <;> rfl
  · intro field hfield value
    obtain ⟨column, -, rfl⟩ := List.mem_map.mp hfield
    simp only [content]
    split <;> rintro ⟨⟩

namespace Session

/-- Some call was sent. -/
def HasCalled (world : World) : Prop := world.exchanges ≠ []

/-- A peer was found: a record of the table that its relation leads to, in which nothing is set. -/
def Found (catalogue : Catalogue) (relation : Relation) (cell : Cell Record) : Prop :=
  ∃ peer, cell = .present peer ∧
    catalogue.schema? relation.targetTable = some peer.schema ∧ peer.Bare ∧ peer.Blank

theorem Found.fetched {catalogue : Catalogue} {relation : Relation} {cell : Cell Record}
    (h : Found catalogue relation cell) : Fetched catalogue relation cell := by
  obtain ⟨peer, rfl, htarget, hbare, -⟩ := h
  rintro _ ⟨⟩
  exact ⟨htarget, hbare⟩

/-- What a relation of a record holds when all that was asked for was found. -/
def Resolved (catalogue : Catalogue) (relations : NameSet) (link : Relation × Cell Record) : Prop :=
  if link.1.key ∈ relations then Found catalogue link.1 link.2 else link.2 = .undefined

theorem Resolved.fails_ofRecord {family : ι → EntityDecl ι} {catalogue : Catalogue}
    {relations : NameSet} {record : Record} {type : ι} (hblank : record.Blank)
    (hlinked : ∀ link ∈ record.links, Resolved catalogue relations link) :
    Fails (Entity.ofRecord family record type) (·.kind = .invalidArgument) := by
  refine Entity.fails_ofRecord_of_blank hblank fun link hlink peer hpeer type' => ?_
  have hresolved := hlinked link hlink
  rw [Resolved] at hresolved
  split at hresolved
  · obtain ⟨_, hcell, -, hbare, hnull⟩ := hresolved
    cases hcell.symm.trans hpeer
    refine Entity.fails_ofRecord_of_blank hnull fun other hother peer' hpeer' _ => ?_
    rw [hbare other hother] at hpeer'
    cases hpeer'
  · cases hresolved.symm.trans hpeer

section Store

variable {catalogue : Catalogue} {schema : Schema} {draws : Nat → BitVec 128}

theorem store_of_hasCalled {world : World} (h : HasCalled world) (call : Call) :
    catalogue.linkedStore schema world.exchanges call = .done [catalogue.blankRow] := by
  have hsome : ¬ world.exchanges.isEmpty = true := by rwa [List.isEmpty_iff]
  rw [Catalogue.linkedStore, if_neg hsome]

theorem gives_fetchPeer {relation : Relation} {target : Schema}
    (htarget : catalogue.schema? relation.targetTable = some target) (column key : String) :
    Gives ⟨catalogue, catalogue.linkedStore schema, draws⟩ HasCalled
      (fetchPeer target relation column key)
      fun cell world => HasCalled world ∧ Found catalogue relation cell := by
  have hblank : ∀ column ∈ target.columns, catalogue.blankRow.get? column.name = some none := by
    intro column hcolumn
    have hmem := (Catalogue.schema?_eq_some.mp htarget).1
    have hstored : column.name ∈ target.storedNames :=
      List.mem_append_left _ (List.mem_map_of_mem hcolumn)
    have hname : column.name ∈ (catalogue.schemas.flatMap (·.storedNames)).dedup :=
      List.mem_dedup.mpr (List.mem_flatMap.mpr ⟨target, hmem, hstored⟩)
    exact Row.get?_map hname
  obtain ⟨peer, hpeer, hnull⟩ := Record.exists_ofRow_blank .empty hblank
  refine gives_bind_of gives_dialect fun dialect _ => ?_
  refine gives_bind_of (K := HasCalled) (P := (· = [catalogue.blankRow])) ?_ ?_
  · refine gives_query (fun world h => ?_) fun world _ => ⟨?_, rfl⟩
    · simp only [store_of_hasCalled h]
    · exact List.append_ne_nil_of_right_ne_nil _ (List.cons_ne_nil _ _)
  · rintro _ rfl
    dsimp only
    rw [hpeer]
    refine gives_pure fun world h => ⟨h, peer, rfl, ?_, Record.bare_of_ofRow hpeer, hnull⟩
    rw [Record.schema_of_ofRow hpeer]
    exact htarget

variable (hschema : schema ∈ catalogue.schemas)

include hschema

theorem gives_resolve {relation : Relation} (hrelation : relation ∈ schema.relations) :
    Gives ⟨catalogue, catalogue.linkedStore schema, draws⟩ HasCalled
      (resolve schema.table schema.linkedRow relation)
      fun cell world => HasCalled world ∧ Found catalogue relation cell := by
  have hconsistent := catalogue.consistent.each _ hschema
  obtain ⟨target, htarget⟩ := Catalogue.exists_target hschema hrelation
  change Gives _ _ (lift (catalogue.requireTable relation.targetTable) >>= _) _
  rw [Catalogue.requireTable_eq_ok.mpr htarget]
  rw [lift, pure_bind]
  split
  · next hside =>
    have howned : relation ∈ schema.ownedRelations :=
      List.mem_filter.mpr ⟨hrelation, by rw [Relation.ownsColumn, hside]; rfl⟩
    have hname : relation.key ∈ schema.storedNames :=
      List.mem_append_right _ (List.mem_cons_of_mem _ (List.mem_map_of_mem howned))
    have hother : ∀ column ∈ schema.columns, column.name ≠ relation.key :=
      fun column hcolumn => hconsistent.column_ne_relation hcolumn hrelation
    rw [Schema.get?_linkedRow hname hother]
    exact gives_fetchPeer htarget _ _
  · have hname : instanceKeyColumn ∈ schema.storedNames :=
      List.mem_append_right _ List.mem_cons_self
    have hother : ∀ column ∈ schema.columns, column.name ≠ instanceKeyColumn :=
      fun column hcolumn => hconsistent.column_ne_key hcolumn
    rw [Record.keyOfRow, Schema.get?_linkedRow hname hother]
    exact gives_fetchPeer htarget _ _

theorem gives_resolveAsked (relations : NameSet) {relation : Relation}
    (hrelation : relation ∈ schema.relations) :
    Gives ⟨catalogue, catalogue.linkedStore schema, draws⟩ HasCalled
      (resolveAsked schema.table relations schema.linkedRow relation)
      fun link world =>
        HasCalled world ∧ link.1 = relation ∧ Resolved catalogue relations link := by
  by_cases hasked : relation.key ∈ relations
  · rw [resolveAsked, if_pos hasked]
    refine gives_bind_of (gives_resolve hschema hrelation) fun cell hcell => ?_
    rw [hcell.fetched.checkPeer]
    refine gives_pure fun world h => ⟨h, rfl, ?_⟩
    rwa [Resolved, if_pos hasked]
  · rw [resolveAsked, if_neg hasked]
    refine gives_pure fun world h => ⟨h, rfl, ?_⟩
    rw [Resolved, if_neg hasked]

theorem gives_hydrate (columns relations : NameSet) :
    Gives ⟨catalogue, catalogue.linkedStore schema, draws⟩ HasCalled
      (hydrate schema columns relations schema.linkedRow)
      fun record world => HasCalled world ∧ record.Blank ∧
        record.links.map Prod.fst = schema.relations ∧
        ∀ link ∈ record.links, Resolved catalogue relations link := by
  have hnull : ∀ column ∈ schema.columns, schema.linkedRow.get? column.name = some none :=
    fun column hcolumn => Schema.get?_linkedRow_column hcolumn
  obtain ⟨record, hrecord, hblank⟩ := Record.exists_ofRow_blank columns hnull
  rw [hydrate_eq, hrecord, lift, pure_bind]
  refine gives_bind_of (gives_mapM fun _ h => gives_resolveAsked hschema relations h) ?_
  intro links hall
  refine gives_pure fun world h => ⟨h, hblank, map_eq_of_forall₂ hall fun _ _ h => h.1, ?_⟩
  intro link hlink
  obtain ⟨relation, -, -, hlinked⟩ := exists_of_mem_right hall hlink
  exact hlinked

theorem gives_select {request : Query} {made : Select}
    (hselect : Select.ofQuery schema request = .ok made) :
    Gives ⟨catalogue, catalogue.linkedStore schema, draws⟩ (·.exchanges = [])
      (select schema request)
      fun records world => HasCalled world ∧ ∃ record, records = [record] ∧ record.Blank ∧
        record.links.map Prod.fst = schema.relations ∧
        ∀ link ∈ record.links, Resolved catalogue request.relations link := by
  rw [select, hselect, lift, pure_bind]
  refine gives_bind_of gives_dialect fun dialect _ => ?_
  refine gives_bind_of (K := HasCalled) (P := (· = [schema.linkedRow])) ?_ ?_
  · refine gives_query (fun world h => ?_) fun world _ => ⟨?_, rfl⟩
    · rw [h]
      rfl
    · exact List.append_ne_nil_of_right_ne_nil _ (List.cons_ne_nil _ _)
  · rintro _ rfl
    rw [List.mapM_cons, List.mapM_nil]
    refine gives_bind_of (gives_hydrate hschema request.columns request.relations) ?_
    intro record hrecord
    exact gives_pure fun world h => ⟨h, record, rfl, hrecord⟩

end Store

end Session

/-! ## Users and profiles -/

/-- The types of users and of their profiles. -/
inductive UserType where
  | user
  | profile

def users : UserType → EntityDecl UserType
  | .user => {
    name := "User"
    table := "user"
    columns := [.primary "id", .regular "age" .int32 true]
    relations := [(⟨"profile", "profile", "user", .left⟩, .profile)] }
  | .profile => {
    name := "Profile"
    table := "profile"
    columns := [.primary "id", .regular "bio" (.varchar 64) true]
    relations := [(⟨"user", "user", "profile", .right⟩, .user)] }

/-- Both tables as their types declare them, where profiles have one more column. -/
def userCatalogue : Catalogue where
  dialect := .sqlite
  schemas := [(users .user).schema,
    { (users .profile).schema with
      columns := (users .profile).columns ++ [.regular "site" (.varchar 80) true] }]
  valid := rfl

/-- The tables of users as they are declared, and of profiles without their texts. -/
def strippedCatalogue : Catalogue where
  dialect := .sqlite
  schemas := [(users .user).schema,
    { (users .profile).schema with columns := [.primary "id"] }]
  valid := rfl

/-- The row of a user, then that of the profile. -/
def profileStore : Store := fun exchanges _ =>
  .done [if exchanges.isEmpty then
      ⟨[("id", some "1"), ("age", none), ("__instance_key", some "k"), ("profile", some "p")]⟩
    else ⟨[("id", some "2"), ("__instance_key", some "p")]⟩]

/-! ## Selections -/

namespace Operation

open Session

variable {family : ι → EntityDecl ι} {type : ι} {catalogue : Catalogue}

/-- A selection fails if what it finds is not read as an entity, and sends nothing more. -/
theorem run_selectEntities_of_fault {schema : Schema}
    (hrequire : catalogue.requireLayout (family type).schema = .ok schema) {store : Store}
    {draws : Nat → BitVec 128} {request : Query} {record : Record} {world : World}
    (hrun : (select (family type).schema request).run ⟨catalogue, store, draws⟩ {} =
      (.ok [record], world))
    {fault : Fault} (hread : Entity.ofRecord family record type = .error fault) :
    ∃ ended, ((selectEntities type request).run family).run ⟨catalogue, store, draws⟩ {} =
        (.error (.fault fault), ended) ∧
      ended.exchanges = world.exchanges := by
  obtain ⟨-, rfl⟩ := Catalogue.requireLayout_eq_ok.mp hrequire
  have hbody : (requireType family type >>= fun schema =>
      select schema request >>= fun records =>
        records.mapM (fun record => lift (Entity.ofRecord family record type)) >>= fun found =>
          pure (Answer.entities found)).run ⟨catalogue, store, draws⟩ {} =
        (.error (.fault fault), world) := by
    have hregistered : (requireType family type).run ⟨catalogue, store, draws⟩ {} =
        (.ok (family type).schema, {}) := by
      change (lift (catalogue.requireLayout (family type).schema)).run _ {} = _
      rw [hrequire]
      rfl
    rw [run_bind, hregistered]
    dsimp only
    rw [run_bind, hrun]
    dsimp only
    rw [List.mapM_cons, hread]
    rfl
  exact ⟨_, run_guarded_of_fault rfl rfl hbody, rfl⟩

/-- A selection of entities whose type is registered as it is declared says that an argument is
invalid only before its first call if and only if the registered layouts of the peers it asks for
cover the types of these peers. -/
theorem selectEntities_refusesBeforeCalls_iff {schema : Schema}
    (hrequire : catalogue.requireLayout (family type).schema = .ok schema) (request : Query) :
    (selectEntities type request).RefusesBeforeCalls family catalogue ↔
      ∀ select, Select.ofQuery (family type).schema request = .ok select →
        ∀ relation ∈ (family type).relations, relation.1.key ∈ request.relations →
          ∀ target, catalogue.schema? relation.1.targetTable = some target →
            target.Covers (family relation.2) := by
  obtain ⟨hschema, -⟩ := Catalogue.requireLayout_eq_ok.mp hrequire
  constructor
  · intro hrefuses made hselect relation hrelation hasked target htarget
    let surroundings : Surroundings :=
      ⟨catalogue, catalogue.linkedStore (family type).schema, fun _ => 0⟩
    have hgives : Gives surroundings (·.exchanges = []) (select (family type).schema request) _ :=
      gives_select hschema hselect
    obtain ⟨_, world, hrun, hcalled, record, rfl, hblank, hfst, hlinked⟩ := hgives {} rfl
    -- the only peer under the key of the relation is the one that was found for it
    have hnodup := (List.nodup_append.mp (catalogue.consistent.each _ hschema).distinct).2.1
    rw [← hfst, List.map_map] at hnodup
    have hdeclared : relation.1 ∈ record.links.map Prod.fst := by
      rw [hfst]
      exact List.mem_map_of_mem hrelation
    obtain ⟨link, hlink, hsame⟩ := List.mem_map.mp hdeclared
    have hfind : record.links.find? (·.1.key == relation.1.key) = some link :=
      (find?_key_eq_some hnodup).mpr ⟨hlink, congrArg Relation.key hsame⟩
    have hfound := hlinked link hlink
    rw [Resolved, hsame, if_pos hasked] at hfound
    obtain ⟨peer, hpeer, hregistered, -, -⟩ := hfound
    obtain rfl : target = peer.schema := Option.some.inj (htarget.symm.trans hregistered)
    cases hread : Entity.ofRecord family record type with
    | ok entity =>
      obtain ⟨entity', hentity⟩ := Entity.exists_peer_of_ofRecord hread hrelation hfind hpeer
      exact Entity.covers_of_ofRecord hentity
    | error fault =>
      obtain ⟨ended, hended, hexchanges⟩ := run_selectEntities_of_fault hrequire hrun hread
      have hinvalid := Resolved.fails_ofRecord hblank hlinked fault hread
      have hnone := hrefuses surroundings {} fault rfl (congrArg Prod.fst hended) hinvalid
      rw [hended, hexchanges] at hnone
      exact absurd hnone hcalled
  · rintro hcovers surroundings world fault rfl hresult hkind
    obtain ⟨added, hextends, hend⟩ := checksFirst_selectEntities hcovers world
    have hnone := hend.eq_nil_of_invalid hresult hkind
    rw [hextends.exchanges, hnone, List.append_nil]

theorem selectEntities_refusesBeforeCalls_users :
    userCatalogue.requireLayout (users .user).schema = .ok (users .user).schema ∧
      (selectEntities UserType.user { relations := NameSet.empty.insert "profile" }
        ).RefusesBeforeCalls users userCatalogue := by
  have hrequire : userCatalogue.requireLayout (users .user).schema = .ok (users .user).schema := rfl
  refine ⟨hrequire, (selectEntities_refusesBeforeCalls_iff hrequire _).mpr ?_⟩
  rintro _ - relation hrelation - target htarget
  obtain rfl := List.mem_singleton.mp hrelation
  cases htarget
  exact ⟨rfl, by decide, by decide⟩

/-- A user is read together with a profile, and only then it is found that a declared column is
unknown. -/
theorem selectEntities_not_refusesBeforeCalls :
    strippedCatalogue.requireLayout (users .user).schema = .ok (users .user).schema ∧
      (((selectEntities UserType.user { relations := NameSet.empty.insert "profile" }).run
        users).run ⟨strippedCatalogue, profileStore, fun _ => 0⟩ {}).1 =
          .error (.fault (.unknownColumn "profile" "bio")) ∧
      (Fault.unknownColumn "profile" "bio").kind = .invalidArgument ∧
      (((selectEntities UserType.user { relations := NameSet.empty.insert "profile" }).run
        users).run ⟨strippedCatalogue, profileStore, fun _ => 0⟩ {}).2.exchanges.length = 2 ∧
      ¬ (selectEntities UserType.user { relations := NameSet.empty.insert "profile" }
        ).RefusesBeforeCalls users strippedCatalogue := by
  have hfault : (((selectEntities UserType.user
      { relations := NameSet.empty.insert "profile" }).run users).run
        ⟨strippedCatalogue, profileStore, fun _ => 0⟩ {}).1 =
          .error (.fault (.unknownColumn "profile" "bio")) := rfl
  have hcalls : (((selectEntities UserType.user
      { relations := NameSet.empty.insert "profile" }).run users).run
        ⟨strippedCatalogue, profileStore, fun _ => 0⟩ {}).2.exchanges.length = 2 := rfl
  refine ⟨rfl, hfault, rfl, hcalls, fun hrefuses => ?_⟩
  have hnone := hrefuses _ _ _ rfl hfault rfl
  rw [hnone] at hcalls
  cases hcalls

end Operation

end RecordMapper
