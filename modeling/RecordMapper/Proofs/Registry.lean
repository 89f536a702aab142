import RecordMapper.Proofs.Runs
import RecordMapper.Proofs.Token
import RecordMapper.Registry

/-!
# Schemas that belong together

* `Registry.Consistent`: what a set of schemas has to be like, without regard to their order.
* `Registry.check_eq_ok_iff`: exactly the consistent sets pass the check.
* `Registry.fails_check`: whatever else is checked is an invalid argument.
* `Registry.validate_iff_consistent`: what a registry gives, and how tables are found in it.
* `Registry.validationEvent_of_validate`, `Registry.events_tell`: what the log says of it.
-/

namespace RecordMapper

/-- Among distinct keys, the member of a key is the only one. -/
theorem find?_key_eq_some {α : Type} {key : α → String} {xs : List α} (hxs : (xs.map key).Nodup)
    {k : String} {x : α} : xs.find? (key · == k) = some x ↔ x ∈ xs ∧ key x = k := by
  induction xs with
  | nil => simp
  | cons y ys ih =>
    obtain ⟨hy, hys⟩ := List.nodup_cons.mp hxs
    rw [List.find?_cons, List.mem_cons]
    by_cases hk : key y = k
    · rw [hk, beq_self_eq_true]
      constructor
      · rintro ⟨⟩
        exact ⟨.inl rfl, hk⟩
      · rintro ⟨rfl | hmem, hx⟩
        · rfl
        · exact absurd (List.mem_map.mpr ⟨x, hmem, hx.trans hk.symm⟩) hy
    · rw [beq_false_of_ne hk, ih hys]
      constructor
      · rintro ⟨hmem, hx⟩
        exact ⟨.inr hmem, hx⟩
      · rintro ⟨rfl | hmem, hx⟩
        · exact absurd hx hk
        · exact ⟨hmem, hx⟩

/-! ## Names that can be written -/

/-- A schema whose names can be written. -/
structure Schema.NamesQuotable (schema : Schema) : Prop where
  table : Quotable schema.table
  columns : ∀ column ∈ schema.columns, Quotable column.name
  relations : ∀ relation ∈ schema.relations, Quotable relation.key

theorem quotable_instanceKeyColumn : Quotable instanceKeyColumn := by
  decide

theorem Schema.NamesQuotable.storedNames {schema : Schema} (h : schema.NamesQuotable) :
    ∀ name ∈ schema.storedNames, Quotable name := by
  intro name hname
  rcases List.mem_append.mp hname with hcolumn | hname
  · obtain ⟨column, hmem, rfl⟩ := List.mem_map.mp hcolumn
    exact h.columns column hmem
  · rcases List.mem_cons.mp hname with rfl | hrelation
    · exact quotable_instanceKeyColumn
    · obtain ⟨relation, hmem, rfl⟩ := List.mem_map.mp hrelation
      exact h.relations relation (List.mem_of_mem_filter hmem)

/-! ## Consistency -/

/-- The names that are declared in a table. -/
def Schema.memberNames (schema : Schema) : List String :=
  schema.columns.map (·.name) ++ schema.relations.map (·.key)

/-- A schema that is consistent by itself. -/
structure Schema.Consistent (schema : Schema) : Prop where
  named : ∀ name ∈ schema.memberNames, name ≠ "" ∧ Quotable name ∧ name ≠ instanceKeyColumn
  distinct : schema.memberNames.Nodup
  primary : schema.columns.countP (·.isPrimary) = 1
  kinds : ∀ column ∈ schema.columns, column.isPrimary = true ↔ column.kind = .primary
  lengths : ∀ column ∈ schema.columns, ∀ maxLength, column.kind = .varchar maxLength →
    1 ≤ maxLength.toNat ∧ maxLength.toNat ≤ maxVarcharLength

namespace Schema.Consistent

variable {schema : Schema} (h : schema.Consistent) {column : Column} {relation : Relation}

include h

theorem nodup_names : (schema.columns.map (·.name)).Nodup :=
  (List.nodup_append.mp h.distinct).1

theorem nodup_keys : (schema.relations.map (·.key)).Nodup :=
  (List.nodup_append.mp h.distinct).2.1

theorem column_ne_relation (hcolumn : column ∈ schema.columns)
    (hrelation : relation ∈ schema.relations) : column.name ≠ relation.key :=
  (List.nodup_append.mp h.distinct).2.2 _ (List.mem_map_of_mem hcolumn) _
    (List.mem_map_of_mem hrelation)

theorem column_ne_key (hcolumn : column ∈ schema.columns) : column.name ≠ instanceKeyColumn :=
  (h.named _ (List.mem_append_left _ (List.mem_map_of_mem hcolumn))).2.2

theorem relation_ne_key (hrelation : relation ∈ schema.relations) :
    relation.key ≠ instanceKeyColumn :=
  (h.named _ (List.mem_append_right _ (List.mem_map_of_mem hrelation))).2.2

end Schema.Consistent

namespace Registry

/-- A relation of a table whose other side is declared. -/
def Mirrored (schemas : List Schema) (table : String) (relation : Relation) : Prop :=
  ∃ target ∈ schemas, target.table = relation.targetTable ∧
    ∃ back ∈ target.relations, back.key = relation.targetKey ∧ back.targetTable = table ∧
      back.targetKey = relation.key ∧ back.side = relation.side.opposite

/-- Schemas that belong together. -/
structure Consistent (schemas : List Schema) : Prop where
  named : ∀ schema ∈ schemas, schema.table ≠ "" ∧ Quotable schema.table
  distinct : (schemas.map (·.table)).Nodup
  each : ∀ schema ∈ schemas, schema.Consistent
  mirrored : ∀ schema ∈ schemas, ∀ relation ∈ schema.relations,
    Mirrored schemas schema.table relation

/-- The order of schemas does not matter. -/
theorem Consistent.perm {schemas schemas' : List Schema} (h : Consistent schemas)
    (hPerm : schemas.Perm schemas') : Consistent schemas' where
  named schema hmem := h.named schema (hPerm.mem_iff.mpr hmem)
  distinct := (hPerm.map _).nodup_iff.mp h.distinct
  each schema hmem := h.each schema (hPerm.mem_iff.mpr hmem)
  mirrored schema hmem relation hrelation := by
    obtain ⟨target, htarget, hback⟩ := h.mirrored schema (hPerm.mem_iff.mpr hmem) relation hrelation
    exact ⟨target, hPerm.mem_iff.mp htarget, hback⟩

theorem Consistent.quotable {schemas : List Schema} (h : Consistent schemas) {schema : Schema}
    (hmem : schema ∈ schemas) : schema.NamesQuotable where
  table := (h.named schema hmem).2
  columns _ hcolumn :=
    ((h.each schema hmem).named _ (List.mem_append_left _ (List.mem_map_of_mem hcolumn))).2.1
  relations _ hrelation :=
    ((h.each schema hmem).named _ (List.mem_append_right _ (List.mem_map_of_mem hrelation))).2.1

/-! ## Names -/

/-- Names that are not among those seen before, nor among each other. -/
def Fresh (seen names : List String) : Prop :=
  (∀ name ∈ names, name ∉ seen) ∧ names.Nodup

theorem fresh_nil (seen : List String) : Fresh seen [] := ⟨nofun, .nil⟩

theorem fresh_cons {seen names : List String} {name : String} :
    Fresh seen (name :: names) ↔ name ∉ seen ∧ Fresh (name :: seen) names := by
  constructor
  · rintro ⟨hseen, hnodup⟩
    obtain ⟨hname, hnames⟩ := List.forall_mem_cons.mp hseen
    obtain ⟨hne, hnodup⟩ := List.nodup_cons.mp hnodup
    refine ⟨hname, fun other hother => ?_, hnodup⟩
    intro hmem
    rcases List.mem_cons.mp hmem with rfl | hmem
    · exact hne hother
    · exact hnames other hother hmem
  · rintro ⟨hname, hseen, hnodup⟩
    refine ⟨List.forall_mem_cons.mpr ⟨hname, fun other hother hmem => ?_⟩, ?_⟩
    · exact hseen other hother (List.mem_cons_of_mem _ hmem)
    · exact List.nodup_cons.mpr ⟨fun hmem => hseen name hmem List.mem_cons_self, hnodup⟩

theorem fresh_empty {names : List String} : Fresh [] names ↔ names.Nodup :=
  ⟨And.right, fun h => ⟨fun _ _ => List.not_mem_nil, h⟩⟩

theorem checkName_eq_ok {role : NameRole} {name : String} :
    checkName role name = .ok () ↔ name ≠ "" ∧ Quotable name := by
  rw [checkName, Quotable]
  split
  · next hempty =>
    rw [String.isEmpty_iff] at hempty
    exact ⟨nofun, fun h => absurd hempty h.1⟩
  · next hempty =>
    rw [String.isEmpty_iff] at hempty
    split
    · next htick => exact ⟨nofun, fun h => absurd htick h.2⟩
    · next htick => exact ⟨fun _ => ⟨hempty, htick⟩, fun _ => rfl⟩

theorem checkTables_eq_ok {seen : List String} {schemas : List Schema} :
    checkTables seen schemas = .ok () ↔
      (∀ schema ∈ schemas, schema.table ≠ "" ∧ Quotable schema.table) ∧
        Fresh seen (schemas.map (·.table)) := by
  induction schemas generalizing seen with
  | nil => exact ⟨fun _ => ⟨nofun, fresh_nil seen⟩, fun _ => rfl⟩
  | cons schema rest ih =>
    rw [checkTables, bind_unit_eq_ok]
    dsimp only
    rw [ite_throw_eq_ok, checkName_eq_ok, ih, List.forall_mem_cons, List.map_cons, fresh_cons]
    constructor
    · rintro ⟨hname, hseen, hnames, hfresh⟩
      exact ⟨⟨hname, hnames⟩, hseen, hfresh⟩
    · rintro ⟨⟨hname, hnames⟩, hseen, hfresh⟩
      exact ⟨hname, hseen, hnames, hfresh⟩

theorem checkMembers_eq_ok {table : String} {seen : List String}
    {members : List (NameRole × String)} :
    checkMembers table seen members = .ok () ↔
      (∀ name ∈ members.map Prod.snd, name ≠ "" ∧ Quotable name ∧ name ≠ instanceKeyColumn) ∧
        Fresh seen (members.map Prod.snd) := by
  induction members generalizing seen with
  | nil => exact ⟨fun _ => ⟨nofun, fresh_nil seen⟩, fun _ => rfl⟩
  | cons member rest ih =>
    obtain ⟨role, name⟩ := member
    rw [checkMembers, bind_unit_eq_ok]
    dsimp only
    rw [ite_throw_eq_ok, ite_throw_eq_ok, checkName_eq_ok, ih, List.map_cons, List.forall_mem_cons,
      fresh_cons]
    constructor
    · rintro ⟨⟨hempty, htick⟩, hreserved, hseen, hnames, hfresh⟩
      exact ⟨⟨⟨hempty, htick, hreserved⟩, hnames⟩, hseen, hfresh⟩
    · rintro ⟨⟨⟨hempty, htick, hreserved⟩, hnames⟩, hseen, hfresh⟩
      exact ⟨⟨hempty, htick⟩, hreserved, hseen, hnames, hfresh⟩

/-! ## One schema -/

theorem checkColumn_eq_ok {table : String} {column : Column} :
    checkColumn table column = .ok () ↔
      (column.isPrimary = true ↔ column.kind = .primary) ∧
        ∀ maxLength, column.kind = .varchar maxLength →
          1 ≤ maxLength.toNat ∧ maxLength.toNat ≤ maxVarcharLength := by
  have hkind : ¬ (column.isPrimary != (column.kind == .primary)) = true ↔
      (column.isPrimary = true ↔ column.kind = .primary) := by
    rw [bne_iff_ne, not_not, Bool.eq_iff_iff, beq_iff_eq]
  rw [checkColumn]
  dsimp only
  rw [ite_throw_eq_ok, hkind]
  refine and_congr_right fun _ => ?_
  split
  · next maxLength hvarchar =>
    split
    · next hlength =>
      refine ⟨fun _ other hother => ?_, fun _ => rfl⟩
      cases hvarchar.symm.trans hother
      exact hlength
    · next hlength => exact ⟨nofun, fun h => absurd (h maxLength hvarchar) hlength⟩
  · next hother => exact ⟨fun _ maxLength h => absurd h (hother maxLength), fun _ => rfl⟩

theorem checkSchema_eq_ok {schema : Schema} : checkSchema schema = .ok () ↔ schema.Consistent := by
  have hnames : (schema.columns.map (NameRole.column, ·.name) ++
      schema.relations.map (NameRole.relation, ·.key)).map Prod.snd = schema.memberNames := by
    rw [List.map_append, List.map_map, List.map_map]
    rfl
  rw [checkSchema, bind_unit_eq_ok]
  dsimp only
  rw [ite_throw_eq_ok, checkMembers_eq_ok, hnames, fresh_empty, not_not, forM_eq_ok]
  constructor
  · rintro ⟨⟨hnamed, hdistinct⟩, hprimary, hcolumns⟩
    exact ⟨hnamed, hdistinct, hprimary,
      fun column hmem => (checkColumn_eq_ok.mp (hcolumns column hmem)).1,
      fun column hmem => (checkColumn_eq_ok.mp (hcolumns column hmem)).2⟩
  · rintro ⟨hnamed, hdistinct, hprimary, hkinds, hlengths⟩
    exact ⟨⟨hnamed, hdistinct⟩, hprimary,
      fun column hmem => checkColumn_eq_ok.mpr ⟨hkinds column hmem, hlengths column hmem⟩⟩

/-! ## Relations between schemas -/

theorem isOppositeOf_iff {table : String} {relation back : Relation} :
    isOppositeOf table relation back = true ↔ back.targetTable = table ∧
      back.targetKey = relation.key ∧ back.side = relation.side.opposite := by
  rw [isOppositeOf, Bool.and_eq_true, Bool.and_eq_true, beq_iff_eq, beq_iff_eq, beq_iff_eq,
    and_assoc]

theorem relation?_eq_some {schema : Schema} (h : schema.Consistent) {key : String}
    {relation : Relation} :
    schema.relation? key = some relation ↔ relation ∈ schema.relations ∧ relation.key = key :=
  find?_key_eq_some h.nodup_keys

theorem checkRelation_eq_ok {schemas : List Schema} (hTables : (schemas.map (·.table)).Nodup)
    (hSchemas : ∀ schema ∈ schemas, schema.Consistent) {table : String} {relation : Relation} :
    checkRelation schemas table relation = .ok () ↔ Mirrored schemas table relation := by
  rw [checkRelation]
  split
  · next hnone =>
    refine ⟨nofun, ?_⟩
    rintro ⟨target, htarget, htable, -⟩
    have hne := List.find?_eq_none.mp hnone target htarget
    exact absurd (beq_iff_eq.mpr htable) hne
  · next target hsome =>
    obtain ⟨htarget, htable⟩ := (find?_key_eq_some hTables).mp hsome
    have hback : (target.relation? relation.targetKey).any (isOppositeOf table relation) = true ↔
        Mirrored schemas table relation := by
      rw [Option.any_eq_true]
      constructor
      · rintro ⟨back, hfound, hopposite⟩
        obtain ⟨hmem, hkey⟩ := (relation?_eq_some (hSchemas target htarget)).mp hfound
        exact ⟨target, htarget, htable, back, hmem, hkey, isOppositeOf_iff.mp hopposite⟩
      · rintro ⟨target', htarget', htable', back, hmem, hkey, hopposite⟩
        -- no other table has the name, so the other side is declared in the one found
        have hsame := (find?_key_eq_some hTables).mpr ⟨htarget', htable'⟩
        obtain rfl : target = target' := Option.some.inj (hsome.symm.trans hsame)
        exact ⟨back, (relation?_eq_some (hSchemas target htarget)).mpr ⟨hmem, hkey⟩,
          isOppositeOf_iff.mpr hopposite⟩
    rw [← hback]
    split
    · next hany => exact ⟨fun _ => hany, fun _ => rfl⟩
    · next hany => exact ⟨nofun, fun h => absurd h hany⟩

/-! ## Verdicts -/

/-- Exactly the consistent sets of schemas pass the check. -/
theorem check_eq_ok_iff {schemas : List Schema} : check schemas = .ok () ↔ Consistent schemas := by
  rw [check, bind_unit_eq_ok, bind_unit_eq_ok, checkTables_eq_ok, fresh_empty, forM_eq_ok,
    forM_eq_ok]
  constructor
  · rintro ⟨⟨hnamed, hdistinct⟩, hschemas, hrelations⟩
    have heach : ∀ schema ∈ schemas, schema.Consistent := fun schema hmem =>
      checkSchema_eq_ok.mp (hschemas schema hmem)
    refine ⟨hnamed, hdistinct, heach, fun schema hmem relation hrelation => ?_⟩
    have hcheck := forM_eq_ok.mp (hrelations schema hmem) relation hrelation
    exact (checkRelation_eq_ok hdistinct heach).mp hcheck
  · rintro ⟨hnamed, hdistinct, heach, hmirrored⟩
    refine ⟨⟨hnamed, hdistinct⟩, fun schema hmem => checkSchema_eq_ok.mpr (heach schema hmem),
      fun schema hmem => forM_eq_ok.mpr fun relation hrelation => ?_⟩
    exact (checkRelation_eq_ok hdistinct heach).mpr (hmirrored schema hmem relation hrelation)

/-- A fault that says that the argument is invalid. -/
def IsInvalidArgument (fault : Fault) : Prop := fault.kind = .invalidArgument

theorem fails_checkName (role : NameRole) (name : String) :
    Fails (checkName role name) IsInvalidArgument := by
  rw [checkName]
  split
  · exact fails_error rfl
  · split
    · exact fails_error rfl
    · exact fails_ok

theorem fails_checkTables (seen : List String) (schemas : List Schema) :
    Fails (checkTables seen schemas) IsInvalidArgument := by
  induction schemas generalizing seen with
  | nil => exact fails_ok
  | cons schema rest ih =>
    refine fails_bind (fails_checkName _ _) fun _ => ?_
    dsimp only
    split
    · exact fails_error rfl
    · exact ih _

theorem fails_checkMembers (table : String) (seen : List String)
    (members : List (NameRole × String)) :
    Fails (checkMembers table seen members) IsInvalidArgument := by
  induction members generalizing seen with
  | nil => exact fails_ok
  | cons member rest ih =>
    refine fails_bind (fails_checkName _ _) fun _ => ?_
    dsimp only
    split
    · exact fails_error rfl
    · split
      · exact fails_error rfl
      · exact ih _

theorem fails_checkColumn (table : String) (column : Column) :
    Fails (checkColumn table column) IsInvalidArgument := by
  rw [checkColumn]
  dsimp only
  split
  · exact fails_error rfl
  · split
    · split
      · exact fails_ok
      · exact fails_error rfl
    · exact fails_ok

theorem fails_checkSchema (schema : Schema) : Fails (checkSchema schema) IsInvalidArgument := by
  refine fails_bind (fails_checkMembers _ _ _) fun _ => ?_
  dsimp only
  split
  · exact fails_error rfl
  · exact fails_forM _ (fails_checkColumn _)

theorem fails_checkRelation (schemas : List Schema) (table : String) (relation : Relation) :
    Fails (checkRelation schemas table relation) IsInvalidArgument := by
  rw [checkRelation]
  split
  · exact fails_error rfl
  · split
    · exact fails_ok
    · exact fails_error rfl

theorem fails_check (schemas : List Schema) : Fails (check schemas) IsInvalidArgument :=
  fails_bind (fails_checkTables _ _) fun _ =>
    fails_bind (fails_forM _ fails_checkSchema) fun _ =>
      fails_forM _ fun _ => fails_forM _ (fails_checkRelation _ _)

/-! ## Catalogues -/

theorem validate_of_check {registry : Registry} (h : check registry.schemas = .ok ()) :
    registry.validate = .ok ⟨registry.dialect, registry.schemas, h⟩ := by
  rw [validate]
  split
  · rfl
  · next hfault => cases h.symm.trans hfault

theorem validate_of_fault {registry : Registry} {fault : Fault}
    (h : check registry.schemas = .error fault) : registry.validate = .error fault := by
  rw [validate]
  split
  · next hok => cases hok.symm.trans h
  · next hfault =>
    cases hfault.symm.trans h
    rfl

end Registry

namespace Catalogue

theorem consistent (catalogue : Catalogue) : Registry.Consistent catalogue.schemas :=
  Registry.check_eq_ok_iff.mp catalogue.valid

theorem quotable_table {catalogue : Catalogue} {schema : Schema}
    (h : schema ∈ catalogue.schemas) : Quotable schema.table :=
  (catalogue.consistent.named schema h).2

theorem schema?_eq_some {catalogue : Catalogue} {table : String} {schema : Schema} :
    catalogue.schema? table = some schema ↔ schema ∈ catalogue.schemas ∧ schema.table = table :=
  find?_key_eq_some catalogue.consistent.distinct

theorem schema?_eq_none {catalogue : Catalogue} {table : String} :
    catalogue.schema? table = none ↔ ∀ schema ∈ catalogue.schemas, schema.table ≠ table := by
  rw [schema?, List.find?_eq_none]
  exact forall₂_congr fun schema _ => not_congr beq_iff_eq

end Catalogue

namespace Registry

theorem validate_eq_ok {registry : Registry} {catalogue : Catalogue} :
    registry.validate = .ok catalogue ↔
      catalogue.dialect = registry.dialect ∧ catalogue.schemas = registry.schemas := by
  obtain ⟨dialect, schemas, hvalid⟩ := catalogue
  obtain ⟨dialect', schemas'⟩ := registry
  constructor
  · intro h
    cases hcheck : check schemas' with
    | ok =>
      cases (validate_of_check hcheck).symm.trans h
      exact ⟨rfl, rfl⟩
    | error fault => cases (validate_of_fault hcheck).symm.trans h
  · rintro ⟨rfl, rfl⟩
    exact validate_of_check hvalid

theorem validate_ok_iff {registry : Registry} :
    (∃ catalogue, registry.validate = .ok catalogue) ↔ Consistent registry.schemas := by
  rw [← check_eq_ok_iff]
  constructor
  · rintro ⟨catalogue, h⟩
    exact (validate_eq_ok.mp h).2 ▸ catalogue.valid
  · exact fun h => ⟨_, validate_of_check h⟩

/-- A registry gives a catalogue exactly if its schemas are consistent, and an invalid argument is
the fault otherwise. The order of registrations does not matter, and a table is found if and only if
it was registered. -/
theorem validate_iff_consistent (registry : Registry) :
    ((∃ catalogue, registry.validate = .ok catalogue) ↔ Consistent registry.schemas) ∧
    (¬ Consistent registry.schemas →
      ∃ fault, registry.validate = .error fault ∧ fault.kind = .invalidArgument) ∧
    (∀ reordered : Registry, reordered.schemas.Perm registry.schemas →
      ((∃ catalogue, reordered.validate = .ok catalogue) ↔
        ∃ catalogue, registry.validate = .ok catalogue)) ∧
    ∀ catalogue, registry.validate = .ok catalogue → ∀ table,
      (∀ schema, catalogue.schema? table = some schema ↔
        schema ∈ registry.schemas ∧ schema.table = table) ∧
      (catalogue.schema? table = none ↔ ∀ schema ∈ registry.schemas, schema.table ≠ table) := by
  refine ⟨validate_ok_iff, fun hinconsistent => ?_, fun reordered hPerm => ?_,
    fun catalogue hok table => ?_⟩
  · cases hcheck : check registry.schemas with
    | ok => exact absurd (check_eq_ok_iff.mp hcheck) hinconsistent
    | error fault => exact ⟨fault, validate_of_fault hcheck, fails_check _ fault hcheck⟩
  · rw [validate_ok_iff, validate_ok_iff]
    exact ⟨fun h => h.perm hPerm, fun h => h.perm hPerm.symm⟩
  · rw [← (validate_eq_ok.mp hok).2]
    exact ⟨fun schema => Catalogue.schema?_eq_some, Catalogue.schema?_eq_none⟩

/-! ## The log -/

/-- The log says of a validation what came of it. -/
theorem validationEvent_of_validate (registry : Registry) :
    (∀ catalogue, registry.validate = .ok catalogue →
      registry.validationEvent = .registryValidated catalogue.schemas.length) ∧
    ∀ fault, registry.validate = .error fault →
      registry.validationEvent = .registryRefused fault := by
  rw [validationEvent]
  cases hcheck : check registry.schemas with
  | ok =>
    rw [validate_of_check hcheck]
    refine ⟨fun catalogue h => ?_, nofun⟩
    cases h
    rfl
  | error fault =>
    rw [validate_of_fault hcheck]
    refine ⟨nofun, fun fault' h => ?_⟩
    cases h
    rfl

theorem level_validationEvent (registry : Registry) :
    registry.validationEvent.level = .error ↔ ¬ Consistent registry.schemas := by
  rw [← check_eq_ok_iff, validationEvent]
  cases check registry.schemas with
  | ok => exact ⟨nofun, fun h => absurd rfl h⟩
  | error => exact ⟨fun _ => nofun, fun _ => rfl⟩

/-- The log of a registry names its tables in the order of their registration, and then says once
what came of the validation: an error exactly if the schemas do not belong together. -/
theorem events_tell (registry : Registry) :
    registry.events.filterMap (·.table) = registry.schemas.map (·.table) ∧
      ((∃ event ∈ registry.events, event.level = .error) ↔ ¬ Consistent registry.schemas) := by
  have hvalidation : registry.validationEvent.table = none := by
    rw [validationEvent]
    cases check registry.schemas <;> rfl
  constructor
  · rw [events, List.filterMap_append, List.filterMap_map, List.filterMap_cons_none hvalidation,
      List.filterMap_nil, List.append_nil]
    exact congrFun (List.filterMap_eq_map (f := Schema.table)) registry.schemas
  · rw [← level_validationEvent]
    constructor
    · rintro ⟨event, hmem, hlevel⟩
      rcases List.mem_append.mp hmem with hregistered | hlast
      · obtain ⟨schema, -, rfl⟩ := List.mem_map.mp hregistered
        cases hlevel
      · rwa [List.mem_singleton.mp hlast] at hlevel
    · exact fun h => ⟨_, List.mem_append_right _ List.mem_cons_self, h⟩

/-- Persons, some of whom are mentors of others. -/
def persons : Schema where
  table := "person"
  columns := [.primary "id", .regular "name" (.varchar 40) false, .regular "age" .int32 true]
  relations := [⟨"passport", "passport", "holder", .left⟩, ⟨"mentor", "person", "pupil", .left⟩,
    ⟨"pupil", "person", "mentor", .right⟩]

def passports : Schema where
  table := "passport"
  columns := [.regular "number" .uint32 true, .primary "id"]
  relations := [⟨"holder", "person", "passport", .right⟩]

/-- Two tables whose relations lead to each other and back to one of them. -/
def population : Registry where
  dialect := .sqlite
  schemas := [persons, passports]

theorem validate_population :
    Consistent population.schemas ∧ ∃ catalogue, population.validate = .ok catalogue := by
  have hcheck : check population.schemas = .ok () := rfl
  have hconsistent := check_eq_ok_iff.mp hcheck
  exact ⟨hconsistent, (validate_iff_consistent population).1.mpr hconsistent⟩

end Registry

end RecordMapper
