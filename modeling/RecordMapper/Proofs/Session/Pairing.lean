import RecordMapper.Proofs.Session.Order
import RecordMapper.Proofs.Statement.Definition

/-!
# Relations of a catalogue

* `DeclaredRelation`: a relation that is declared in a table of a catalogue.
* `DeclaredRelation.opposite`: the other side of it. `Catalogue.Paired` says that the declared
  relations come in pairs of one left and one right side.
* `DeclaredRelation.Resolvable`: a peer is looked up in a registered table, by a column that is
  created with it.
* `Catalogue.paired_and_resolvable`: all relations of a catalogue are like that, so that no peer is
  looked for in a table that is not registered, and none is found in the wrong one.
-/

namespace RecordMapper

variable {catalogue : Catalogue}

/-- A relation that is declared in a table of a catalogue. -/
structure DeclaredRelation (catalogue : Catalogue) where
  schema : Schema
  relation : Relation
  registered : schema ∈ catalogue.schemas
  declared : relation ∈ schema.relations
deriving DecidableEq

namespace DeclaredRelation

/-! ## Places -/

/-- Where a relation is declared. -/
def place (r : DeclaredRelation catalogue) : String × String :=
  (r.schema.table, r.relation.key)

/-- Where the other side has to be declared. -/
def otherPlace (r : DeclaredRelation catalogue) : String × String :=
  (r.relation.targetTable, r.relation.targetKey)

/-- No two relations are declared in one place. -/
theorem place_injective : Function.Injective (@place catalogue) := by
  rintro ⟨schema, relation, hschema, hrelation⟩ ⟨schema', relation', hschema', hrelation'⟩ h
  obtain ⟨htable, hkey⟩ := Prod.mk.inj h
  obtain rfl : schema = schema' :=
    List.inj_on_of_nodup_map catalogue.consistent.distinct hschema hschema' htable
  have hkeys := (catalogue.consistent.each _ hschema).nodup_keys
  obtain rfl : relation = relation' :=
    List.inj_on_of_nodup_map hkeys hrelation hrelation' hkey
  rfl

/-! ## The other side -/

theorem isSome_target (r : DeclaredRelation catalogue) :
    (catalogue.schema? r.relation.targetTable).isSome = true :=
  Option.isSome_iff_exists.mpr (Catalogue.exists_target r.registered r.declared)

/-- The table that a relation leads to. -/
def target (r : DeclaredRelation catalogue) : Schema :=
  (catalogue.schema? r.relation.targetTable).get r.isSome_target

theorem schema?_target (r : DeclaredRelation catalogue) :
    catalogue.schema? r.relation.targetTable = some r.target :=
  (Option.some_get _).symm

theorem target_registered (r : DeclaredRelation catalogue) : r.target ∈ catalogue.schemas :=
  (Catalogue.schema?_eq_some.mp r.schema?_target).1

theorem table_target (r : DeclaredRelation catalogue) :
    r.target.table = r.relation.targetTable :=
  (Catalogue.schema?_eq_some.mp r.schema?_target).2

/-- The other side of a relation is the only one of its key in the table that is led to. -/
theorem exists_back (r : DeclaredRelation catalogue) :
    ∃ back, r.target.relation? r.relation.targetKey = some back ∧
      back.targetTable = r.schema.table ∧ back.targetKey = r.relation.key ∧
      back.side = r.relation.side.opposite := by
  obtain ⟨target, htarget, htable, back, hback, hkey, hmirrored⟩ :=
    catalogue.consistent.mirrored _ r.registered _ r.declared
  -- no other table has this name, and no other relation there has this key
  have hfound := Catalogue.schema?_eq_some.mpr ⟨htarget, htable⟩
  obtain rfl : r.target = target := Option.some.inj (r.schema?_target.symm.trans hfound)
  have hconsistent := catalogue.consistent.each _ htarget
  exact ⟨back, (Registry.relation?_eq_some hconsistent).mpr ⟨hback, hkey⟩, hmirrored⟩

theorem isSome_back (r : DeclaredRelation catalogue) :
    (r.target.relation? r.relation.targetKey).isSome = true := by
  obtain ⟨back, hback, -⟩ := r.exists_back
  exact Option.isSome_iff_exists.mpr ⟨back, hback⟩

/-- The other side of a relation. -/
def opposite (r : DeclaredRelation catalogue) : DeclaredRelation catalogue where
  schema := r.target
  relation := (r.target.relation? r.relation.targetKey).get r.isSome_back
  registered := r.target_registered
  declared := List.mem_of_find?_eq_some (Option.some_get _).symm

theorem place_opposite (r : DeclaredRelation catalogue) : r.opposite.place = r.otherPlace := by
  have hfound : r.target.relation? r.relation.targetKey = some r.opposite.relation :=
    (Option.some_get _).symm
  have hconsistent := catalogue.consistent.each _ r.target_registered
  exact Prod.ext r.table_target ((Registry.relation?_eq_some hconsistent).mp hfound).2

theorem relation_opposite (r : DeclaredRelation catalogue) :
    r.opposite.otherPlace = r.place ∧
      r.opposite.relation.side = r.relation.side.opposite := by
  obtain ⟨back, hback, htable, hkey, hside⟩ := r.exists_back
  have hfound : r.target.relation? r.relation.targetKey = some r.opposite.relation :=
    (Option.some_get _).symm
  obtain rfl : r.opposite.relation = back := Option.some.inj (hfound.symm.trans hback)
  exact ⟨Prod.ext htable hkey, hside⟩

theorem opposite_involutive : Function.Involutive (@opposite catalogue) := by
  intro r
  apply place_injective
  rw [place_opposite, r.relation_opposite.1]

theorem opposite_ne_self (r : DeclaredRelation catalogue) : r.opposite ≠ r := by
  intro h
  have hside := r.relation_opposite.2
  rw [h] at hside
  cases hr : r.relation.side <;> rw [hr] at hside <;> cases hside

end DeclaredRelation

/-! ## As many left as right sides -/

namespace Catalogue

/-- The declared relations of a catalogue. -/
def relations (catalogue : Catalogue) : List (DeclaredRelation catalogue) :=
  catalogue.schemas.attach.flatMap fun schema => schema.1.relations.attach.map fun relation =>
    ⟨schema.1, relation.1, schema.2, relation.2⟩

theorem mem_relations (r : DeclaredRelation catalogue) : r ∈ catalogue.relations := by
  refine List.mem_flatMap.mpr ⟨⟨r.schema, r.registered⟩, List.mem_attach _ _, ?_⟩
  exact List.mem_map.mpr ⟨⟨r.relation, r.declared⟩, List.mem_attach _ _, rfl⟩

theorem map_relation_relations (catalogue : Catalogue) :
    catalogue.relations.map (·.relation) = catalogue.schemas.flatMap (·.relations) := by
  simp [relations, List.map_flatMap]

theorem nodup_relations (catalogue : Catalogue) : catalogue.relations.Nodup := by
  refine List.nodup_flatMap.mpr ⟨fun schema _ => ?_, ?_⟩
  · have hkeys := (catalogue.consistent.each _ schema.2).nodup_keys
    refine (List.nodup_attach.mpr hkeys.of_map).map fun first second h => ?_
    exact Subtype.ext (congrArg DeclaredRelation.relation h)
  · refine (List.nodup_attach.mpr catalogue.consistent.distinct.of_map).imp fun hne => ?_
    intro r hfirst hsecond
    obtain ⟨_, -, rfl⟩ := List.mem_map.mp hfirst
    obtain ⟨_, -, hsame⟩ := List.mem_map.mp hsecond
    exact hne (Subtype.ext (congrArg DeclaredRelation.schema hsame).symm)

theorem perm_opposite (catalogue : Catalogue) :
    (catalogue.relations.map DeclaredRelation.opposite).Perm catalogue.relations := by
  have hinjective := (@DeclaredRelation.opposite_involutive catalogue).injective
  rw [List.perm_ext_iff_of_nodup (catalogue.nodup_relations.map hinjective)
    catalogue.nodup_relations]
  refine fun r => iff_of_true ?_ (mem_relations r)
  exact List.mem_map.mpr ⟨r.opposite, mem_relations _, DeclaredRelation.opposite_involutive r⟩

/-- The number of declared relations of a side. -/
def countSide (catalogue : Catalogue) (side : Side) : Nat :=
  (catalogue.schemas.flatMap (·.relations)).countP (·.side = side)

theorem countSide_eq (catalogue : Catalogue) (side : Side) :
    catalogue.countSide side = catalogue.relations.countP (·.relation.side = side) := by
  rw [countSide, ← map_relation_relations, List.countP_map]
  rfl

theorem countSide_opposite (catalogue : Catalogue) (side : Side) :
    catalogue.countSide side.opposite = catalogue.countSide side := by
  have hside : ∀ r : DeclaredRelation catalogue,
      r.opposite.relation.side = side.opposite ↔ r.relation.side = side := by
    intro r
    rw [r.relation_opposite.2]
    cases r.relation.side <;> cases side <;> decide
  calc catalogue.countSide side.opposite
    _ = catalogue.relations.countP (·.relation.side = side.opposite) := countSide_eq _ _
    _ = (catalogue.relations.map DeclaredRelation.opposite).countP
          (·.relation.side = side.opposite) := (catalogue.perm_opposite.countP_eq _).symm
    _ = catalogue.relations.countP (·.opposite.relation.side = side.opposite) := List.countP_map
    _ = catalogue.relations.countP (·.relation.side = side) := by simp only [hside]
    _ = catalogue.countSide side := (countSide_eq _ _).symm

/-- The declared relations of a catalogue come in pairs of one left and one right side. Each is told
by its table and its key, and the other side is the one that it names. -/
structure Paired (catalogue : Catalogue) : Prop where
  distinct : Function.Injective (@DeclaredRelation.place catalogue)
  named : ∀ r : DeclaredRelation catalogue, r.opposite.place = r.otherPlace
  involutive : Function.Involutive (@DeclaredRelation.opposite catalogue)
  other : ∀ r : DeclaredRelation catalogue, r.opposite ≠ r
  side : ∀ r : DeclaredRelation catalogue, r.opposite.relation.side = r.relation.side.opposite
  balanced : catalogue.countSide .left = catalogue.countSide .right

theorem paired (catalogue : Catalogue) : catalogue.Paired where
  distinct := DeclaredRelation.place_injective
  named := DeclaredRelation.place_opposite
  involutive := DeclaredRelation.opposite_involutive
  other := DeclaredRelation.opposite_ne_self
  side r := r.relation_opposite.2
  balanced := catalogue.countSide_opposite .right

end Catalogue

/-! ## Lookups -/

namespace DeclaredRelation

open Session

/-- The peers of a relation can be looked up. The table that it leads to is created with the column
by which they are looked for, and no other calls are sent for them. -/
structure Resolvable (r : DeclaredRelation catalogue) : Prop where
  created : ∃ sql ∈ catalogue.createStatements, ∃ definition,
    TableDefinition.ofText? sql = some definition ∧ definition.table = r.relation.targetTable ∧
      r.relation.lookupColumn ∈ definition.columns.map (·.name)
  looksUp : ∀ store draws row, Sends ⟨catalogue, store, draws⟩
    (LooksUp catalogue.dialect r.target r.relation.lookupColumn)
    (resolve r.schema.table row r.relation)

/-- A left side is found by the instance key, and a right one by the column of its left side. -/
theorem lookupColumn_mem (r : DeclaredRelation catalogue) :
    r.relation.lookupColumn ∈ r.target.storedNames := by
  refine List.mem_append_right _ ?_
  rw [Relation.lookupColumn]
  cases hside : r.relation.side with
  | left => exact List.mem_cons_self
  | right =>
    have hback := r.relation_opposite.2
    rw [hside] at hback
    have howned : r.opposite.relation ∈ r.target.ownedRelations :=
      List.mem_filter.mpr ⟨r.opposite.declared, by rw [Relation.ownsColumn, hback]; rfl⟩
    have hkey : r.opposite.relation.key = r.relation.targetKey :=
      congrArg Prod.snd r.place_opposite
    exact List.mem_cons_of_mem _ (hkey ▸ List.mem_map_of_mem howned)

theorem resolvable (r : DeclaredRelation catalogue) : r.Resolvable where
  created := by
    have hquotable := catalogue.consistent.quotable r.target_registered
    refine ⟨_, List.mem_map_of_mem r.target_registered, _,
      Schema.definition_ofText? catalogue.dialect hquotable, r.table_target, ?_⟩
    rw [CreateTable.map_name_definition]
    exact r.lookupColumn_mem
  looksUp _ _ row :=
    leaves_mono (settles_resolve r.schema.table row r.schema?_target) fun _ _ h => h.calls

end DeclaredRelation

/-- Whatever the rows, the request and the store, a record of a registered table fails for no
missing table and no peer of a wrong one. -/
def Catalogue.FindsPeers (catalogue : Catalogue) : Prop :=
  ∀ schema ∈ catalogue.schemas, ∀ columns relations row store draws world fault,
    ((Session.hydrate schema columns relations row).run ⟨catalogue, store, draws⟩ world).1 =
        .error (.fault fault) →
      (∀ table, fault ≠ .tableUnregistered table) ∧
        ∀ key expected found, fault ≠ .peerTable key expected found

theorem Catalogue.findsPeers (catalogue : Catalogue) : catalogue.FindsPeers := by
  intro schema hschema columns relations row store draws world fault hfault
  obtain ⟨added, -, hsettled⟩ := @Session.settles_hydrate ⟨catalogue, store, draws⟩ schema hschema
    columns relations row world
  have hkind := hsettled.not_invalid hfault
  constructor
  · rintro table rfl
    exact hkind rfl
  · rintro key expected found rfl
    exact hkind rfl

/-- In schemas that belong together all relations are paired, and all peers can be found. -/
theorem Catalogue.paired_and_resolvable (catalogue : Catalogue) :
    catalogue.Paired ∧ (∀ r : DeclaredRelation catalogue, r.Resolvable) ∧ catalogue.FindsPeers :=
  ⟨catalogue.paired, DeclaredRelation.resolvable, catalogue.findsPeers⟩

/-- Of persons and their mentors, one table has both sides. -/
theorem Catalogue.paired_population :
    ∃ catalogue, Registry.population.validate = .ok catalogue ∧
      ∃ mentor pupil : DeclaredRelation catalogue,
        mentor.place = ("person", "mentor") ∧ pupil.place = ("person", "pupil") ∧
          mentor.opposite = pupil ∧ pupil.opposite = mentor ∧
          mentor.Resolvable ∧ catalogue.countSide .left = catalogue.countSide .right := by
  let catalogue : Catalogue := ⟨.sqlite, [Registry.persons, Registry.passports], rfl⟩
  obtain ⟨hpaired, hresolvable, -⟩ := catalogue.paired_and_resolvable
  let mentor : DeclaredRelation catalogue := ⟨Registry.persons,
    ⟨"mentor", "person", "pupil", .left⟩, List.mem_cons_self, by decide⟩
  let pupil : DeclaredRelation catalogue := ⟨Registry.persons,
    ⟨"pupil", "person", "mentor", .right⟩, List.mem_cons_self, by decide⟩
  have hopposite : mentor.opposite = pupil := hpaired.distinct (hpaired.named mentor)
  refine ⟨catalogue, rfl, mentor, pupil, rfl, rfl, hopposite, ?_, hresolvable mentor,
    hpaired.balanced⟩
  rw [← hopposite]
  exact hpaired.involutive mentor

end RecordMapper
