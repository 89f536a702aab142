import RecordMapper.Proofs.Statement.Apart

/-!
# The text of a creation determines its table

* `Dialect.columnType_injective`: kinds of columns are told apart by what is said of them.
* `CreateTable.columns_definition`: the clauses of a creation, where that of the instance key lies
  between those of the columns and those of the relations.
* `Schema.SameLayout`: schemas of tables that a store cannot tell apart.
* `Schema.render_eq_iff`: exactly these have the same text.
-/

namespace RecordMapper

/-! ## Types -/

namespace Dialect

theorem varchar_injective {length length' : Nat} (h : varchar length = varchar length') :
    length = length' := by
  have htext := congrArg String.toList h
  rw [toList_varchar, toList_varchar] at htext
  exact Decimal.ofNat_injective
    (String.toList_inj.mp (List.append_cancel_left (List.append_cancel_right htext)))

/-- Only the type of a text starts with this letter. -/
theorem head?_columnType {dialect : Dialect} {kind : ColumnKind} :
    (dialect.columnType kind).toList.head? = some 'V' ↔ ∃ maxLength, kind = .varchar maxLength := by
  cases kind with
  | varchar maxLength =>
    rw [columnType_varchar, toList_varchar]
    exact ⟨fun _ => ⟨maxLength, rfl⟩, fun _ => rfl⟩
  | primary | int32 | uint32 => cases dialect <;> simp [columnType]

theorem columnType_injective {dialect : Dialect} {kind kind' : ColumnKind}
    (h : dialect.columnType kind = dialect.columnType kind') : kind = kind' := by
  have hvarchar : (∃ maxLength, kind = .varchar maxLength) ↔
      ∃ maxLength, kind' = .varchar maxLength := by
    rw [← head?_columnType, h, head?_columnType]
  cases kind with
  | varchar maxLength =>
    obtain ⟨maxLength', rfl⟩ := hvarchar.mp ⟨maxLength, rfl⟩
    rw [columnType_varchar, columnType_varchar] at h
    exact congrArg _ (UInt64.toNat_inj.mp (varchar_injective h))
  | primary | int32 | uint32 =>
    cases kind' with
    | varchar maxLength => obtain ⟨_, ⟨⟩⟩ := hvarchar.mpr ⟨maxLength, rfl⟩
    | primary | int32 | uint32 => cases dialect <;> revert h <;> decide

end Dialect

/-! ## Clauses -/

/-- What a creation says of the column of instance keys. -/
def keyClause (dialect : Dialect) : ColumnClause where
  name := instanceKeyColumn
  type := dialect.keyType
  isRequired := true

def Column.clause (dialect : Dialect) (column : Column) : ColumnClause where
  name := column.name
  type := dialect.columnType column.kind
  isRequired := column.isRequired

/-- What a creation says of the column of a relation. -/
def Relation.clause (dialect : Dialect) (relation : Relation) : ColumnClause where
  name := relation.key
  type := dialect.keyType
  isRequired := false

theorem CreateTable.columns_definition (dialect : Dialect) (schema : Schema) :
    ((ofSchema schema).definition dialect).columns = schema.columns.map (·.clause dialect) ++
      keyClause dialect :: schema.ownedRelations.map (·.clause dialect) := by
  rw [definition, ofSchema, Schema.storedColumns, List.map_append, List.map_map, List.map_cons,
    List.map_map]
  rfl

/-- No column or relation has a clause that could be that of the instance key. -/
theorem Schema.Consistent.keyClause_not_mem {schema : Schema} (h : schema.Consistent)
    (dialect : Dialect) : keyClause dialect ∉ schema.columns.map (·.clause dialect) ∧
      keyClause dialect ∉ schema.ownedRelations.map (·.clause dialect) := by
  constructor
  · intro hmem
    obtain ⟨column, hcolumn, hclause⟩ := List.mem_map.mp hmem
    exact h.column_ne_key hcolumn (congrArg ColumnClause.name hclause)
  · intro hmem
    obtain ⟨relation, hrelation, hclause⟩ := List.mem_map.mp hmem
    exact h.relation_ne_key (List.mem_of_mem_filter hrelation)
      (congrArg ColumnClause.name hclause)

/-! ## Layouts -/

/-- Columns of which a creation says the same. One that is not primary is nullable if the other is.
-/
structure Column.SameLayout (column column' : Column) : Prop where
  name : column.name = column'.name
  kind : column.kind = column'.kind
  isPrimary : column.isPrimary = column'.isPrimary
  isRequired : column.isRequired = column'.isRequired

/-- Tables of one name, with the same columns and the same relations of their own, in the same
order. -/
structure Schema.SameLayout (schema schema' : Schema) : Prop where
  table : schema.table = schema'.table
  columns : List.Forall₂ Column.SameLayout schema.columns schema'.columns
  relations : schema.ownedRelations.map (·.key) = schema'.ownedRelations.map (·.key)

theorem Column.SameLayout.of_clause_eq {dialect : Dialect} {column column' : Column}
    (h : column.isPrimary = true ↔ column.kind = .primary)
    (h' : column'.isPrimary = true ↔ column'.kind = .primary)
    (hclause : column.clause dialect = column'.clause dialect) : column.SameLayout column' := by
  obtain ⟨hname, htype, hrequired⟩ := ColumnClause.mk.inj hclause
  have hkind := Dialect.columnType_injective htype
  exact ⟨hname, hkind, Bool.eq_iff_iff.mpr (h.trans (hkind ▸ h'.symm)), hrequired⟩

namespace Schema

variable {schema schema' : Schema}

/-- The clause of the instance key tells those of the columns from those of the relations, which may
be like each other. -/
theorem SameLayout.of_definition_eq {dialect : Dialect} (h : schema.Consistent)
    (h' : schema'.Consistent) (hdefinition : (CreateTable.ofSchema schema).definition dialect =
      (CreateTable.ofSchema schema').definition dialect) : schema.SameLayout schema' := by
  obtain ⟨hcolumn, hrelation⟩ := h.keyClause_not_mem dialect
  have hclauses := congrArg TableDefinition.columns hdefinition
  rw [CreateTable.columns_definition, CreateTable.columns_definition,
    List.append_cons_inj_of_notMem hcolumn hrelation] at hclauses
  obtain ⟨hcolumns, -, hrelations⟩ := hclauses
  have hkeys := congrArg (List.map ColumnClause.name) hrelations
  rw [List.map_map, List.map_map] at hkeys
  exact {
    table := congrArg TableDefinition.table hdefinition
    columns := forall₂_of_map_eq hcolumns fun column hmem column' hmem' =>
      .of_clause_eq (h.kinds column hmem) (h'.kinds column' hmem')
    relations := hkeys }

theorem SameLayout.ofSchema_eq (h : schema.SameLayout schema') :
    CreateTable.ofSchema schema = CreateTable.ofSchema schema' := by
  let storedColumn (column : Column) : StoredColumn :=
    { name := column.name, type := .declared column.kind, isRequired := column.isRequired }
  let storedKey (key : String) : StoredColumn := { name := key, type := .key, isRequired := false }
  have hcolumns : schema.columns.map storedColumn = schema'.columns.map storedColumn := by
    refine forall₂_eq_iff_map_eq.mp (h.columns.imp fun column column' hsame => ?_)
    simp only [storedColumn, hsame.name, hsame.kind, hsame.isRequired]
  have hrelations := congrArg (List.map storedKey) h.relations
  rw [List.map_map, List.map_map] at hrelations
  have hstored : schema.storedColumns = schema'.storedColumns :=
    congrArg₂ (· ++ _ :: ·) hcolumns hrelations
  exact congrArg₂ CreateTable.mk h.table hstored

/-- Of two tables that were validated, the creations have the same text exactly if the tables have
the same layout. In the text no two columns have the same name. -/
theorem render_eq_iff {catalogue catalogue' : Catalogue} (h : schema ∈ catalogue.schemas)
    (h' : schema' ∈ catalogue'.schemas) (dialect : Dialect) :
    ((CreateTable.ofSchema schema).render dialect = (CreateTable.ofSchema schema').render dialect ↔
      schema.SameLayout schema') ∧
    ∃ definition, TableDefinition.ofText? ((CreateTable.ofSchema schema).render dialect) =
        some definition ∧
      definition.columnNames = schema.storedNames ∧ definition.columnNames.Nodup := by
  have hread := schema.definition_ofText? dialect (catalogue.consistent.quotable h)
  have hread' := schema'.definition_ofText? dialect (catalogue'.consistent.quotable h')
  have hconsistent := catalogue.consistent.each schema h
  have hnames : ((CreateTable.ofSchema schema).definition dialect).columnNames =
      schema.storedNames := CreateTable.map_name_definition dialect schema
  refine ⟨⟨fun htext => ?_, fun hsame => by rw [hsame.ofSchema_eq]⟩,
    _, hread, hnames, hnames ▸ hconsistent.nodup_storedNames⟩
  rw [htext, hread'] at hread
  exact .of_definition_eq hconsistent (catalogue'.consistent.each schema' h')
    (Option.some.inj hread).symm

/-- A desk that is related to its lamp. -/
def relatedDesk : Schema where
  table := "desk"
  columns := [.primary "id"]
  relations := [⟨"lamp", "desk", "stand", .left⟩, ⟨"stand", "desk", "lamp", .right⟩]

/-- The same, except for the side of the relation that has no column. -/
def turnedDesk : Schema where
  table := "desk"
  columns := [.primary "id"]
  relations := [⟨"back", "desk", "lamp", .right⟩, ⟨"lamp", "desk", "back", .left⟩]

/-- A desk that has a column in place of the relation. -/
def describedDesk : Schema where
  table := "desk"
  columns := [.primary "id", .regular "lamp" (.varchar 36) true]
  relations := []

/-- The column of the relation and the one in its place have the same clause, but on the two sides
of the instance key. -/
theorem render_eq_iff_desk :
    let text (schema : Schema) := (CreateTable.ofSchema schema).render .mariadb
    let clauses (schema : Schema) := ((CreateTable.ofSchema schema).definition .mariadb).columns
    text relatedDesk = text turnedDesk ∧ relatedDesk.SameLayout turnedDesk ∧
      (clauses relatedDesk).Perm (clauses describedDesk) ∧
      text relatedDesk ≠ text describedDesk := by
  intro text clauses
  have hrelated : relatedDesk ∈ (⟨.mariadb, [relatedDesk], rfl⟩ : Catalogue).schemas :=
    List.mem_cons_self
  have hturned : turnedDesk ∈ (⟨.mariadb, [turnedDesk], rfl⟩ : Catalogue).schemas :=
    List.mem_cons_self
  have hdescribed : describedDesk ∈ (⟨.mariadb, [describedDesk], rfl⟩ : Catalogue).schemas :=
    List.mem_cons_self
  have hsame := (render_eq_iff hrelated hturned .mariadb).1
  have hother := (render_eq_iff hrelated hdescribed .mariadb).1
  refine ⟨rfl, hsame.mp rfl, by decide, fun htext => ?_⟩
  exact absurd (hother.mp htext).columns.length_eq (by decide)

end Schema

end RecordMapper
