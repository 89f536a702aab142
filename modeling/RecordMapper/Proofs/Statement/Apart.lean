import RecordMapper.Proofs.Statement.Admitted

/-!
# Tables that a store tells apart

A store may compare names without regard to the case of ASCII letters.

* `foldCase`: a name as such a store knows it.
* `TableDefinition.Apart`: tables that are all different to it, as are the columns of each.
* `Catalogue.apart_iff_spelledApart`: the tables of a catalogue, and the columns of each, are told
  apart byte for byte, and by such a store exactly if no two names differ in the case of letters
  alone.
-/

namespace RecordMapper

/-- A name without regard to the case of its ASCII letters. -/
def foldCase (name : String) : String :=
  String.ofList (name.toList.map Char.toLower)

/-! ## Definitions -/

namespace TableDefinition

def columnNames (definition : TableDefinition) : List String :=
  definition.columns.map (·.name)

/-- Definitions of tables that are all different to the store, as are the columns of each. -/
structure Apart (definitions : List TableDefinition) : Prop where
  tables : (definitions.map (foldCase ·.table)).Nodup
  columns : ∀ definition ∈ definitions, (definition.columnNames.map foldCase).Nodup

end TableDefinition

/-! ## Names of a catalogue -/

namespace Catalogue

/-- No two tables, and no two columns of a table, have names that differ in the case of letters
alone. -/
structure SpelledApart (catalogue : Catalogue) : Prop where
  tables : ∀ schema ∈ catalogue.schemas, ∀ schema' ∈ catalogue.schemas,
    foldCase schema.table = foldCase schema'.table → schema.table = schema'.table
  columns : ∀ schema ∈ catalogue.schemas, ∀ name ∈ schema.storedNames,
    ∀ name' ∈ schema.storedNames, foldCase name = foldCase name' → name = name'

/-- What the statements of a catalogue define. -/
def definitions (catalogue : Catalogue) : List TableDefinition :=
  catalogue.schemas.map fun schema => (CreateTable.ofSchema schema).definition catalogue.dialect

variable (catalogue : Catalogue)

theorem definitions_ofText? :
    catalogue.createStatements.mapM TableDefinition.ofText? = some catalogue.definitions := by
  have hread : ∀ schema ∈ catalogue.schemas, TableDefinition.ofText?
      ((CreateTable.ofSchema schema).render catalogue.dialect) =
        pure ((CreateTable.ofSchema schema).definition catalogue.dialect) := fun schema hschema =>
    schema.definition_ofText? catalogue.dialect (catalogue.consistent.quotable hschema)
  rw [createStatements, List.mapM_map, definitions]
  exact (mapM_congr_of_mem hread).trans List.mapM_pure

theorem map_table_definitions :
    catalogue.definitions.map (·.table) = catalogue.schemas.map (·.table) := by
  rw [definitions, List.map_map]
  rfl

theorem map_columnNames_definitions :
    catalogue.definitions.map (·.columnNames) = catalogue.schemas.map (·.storedNames) := by
  rw [definitions, List.map_map]
  exact List.map_congr_left fun schema _ =>
    CreateTable.map_name_definition catalogue.dialect schema

theorem forall_definitions {P : List String → Prop} :
    (∀ definition ∈ catalogue.definitions, P definition.columnNames) ↔
      ∀ schema ∈ catalogue.schemas, P schema.storedNames := by
  rw [← List.forall_mem_map (f := TableDefinition.columnNames), map_columnNames_definitions,
    List.forall_mem_map]

/-- Byte for byte, all names are told apart. -/
theorem nodup_definitions : (catalogue.definitions.map (·.table)).Nodup ∧
    ∀ definition ∈ catalogue.definitions, definition.columnNames.Nodup := by
  rw [map_table_definitions, forall_definitions]
  exact ⟨catalogue.consistent.distinct, fun schema hschema =>
    (catalogue.consistent.each schema hschema).nodup_storedNames⟩

theorem apart_definitions :
    TableDefinition.Apart catalogue.definitions ↔ catalogue.SpelledApart := by
  have htables : (catalogue.definitions.map (foldCase ·.table)).Nodup ↔
      ∀ schema ∈ catalogue.schemas, ∀ schema' ∈ catalogue.schemas,
        foldCase schema.table = foldCase schema'.table → schema.table = schema'.table := by
    have hfold : catalogue.definitions.map (foldCase ·.table) =
        (catalogue.schemas.map (·.table)).map foldCase := by
      rw [← map_table_definitions, List.map_map]
      rfl
    rw [hfold, List.nodup_map_iff_inj_on catalogue.consistent.distinct]
    simp only [List.forall_mem_map]
  have hcolumns : (∀ definition ∈ catalogue.definitions,
      (definition.columnNames.map foldCase).Nodup) ↔
        ∀ schema ∈ catalogue.schemas, ∀ name ∈ schema.storedNames, ∀ name' ∈ schema.storedNames,
          foldCase name = foldCase name' → name = name' := by
    rw [catalogue.forall_definitions (P := fun names => (names.map foldCase).Nodup)]
    refine forall₂_congr fun schema hschema => ?_
    exact List.nodup_map_iff_inj_on (catalogue.consistent.each schema hschema).nodup_storedNames
  exact ⟨fun h => ⟨htables.mp h.tables, hcolumns.mp h.columns⟩,
    fun h => ⟨htables.mpr h.tables, hcolumns.mpr h.columns⟩⟩

/-- The statements of a catalogue define its tables, with the columns that these have in the store.
Byte for byte all tables are different, and so are the columns of each. To a store that does not
tell the cases of letters apart they are exactly if no two names differ in nothing else. -/
theorem apart_iff_spelledApart :
    ∃ definitions, catalogue.createStatements.mapM TableDefinition.ofText? = some definitions ∧
      definitions.map (·.table) = catalogue.schemas.map (·.table) ∧
      definitions.map (·.columnNames) = catalogue.schemas.map (·.storedNames) ∧
      ((definitions.map (·.table)).Nodup ∧
        ∀ definition ∈ definitions, definition.columnNames.Nodup) ∧
      (TableDefinition.Apart definitions ↔ catalogue.SpelledApart) :=
  ⟨catalogue.definitions, catalogue.definitions_ofText?, catalogue.map_table_definitions,
    catalogue.map_columnNames_definitions, catalogue.nodup_definitions,
    catalogue.apart_definitions⟩

/-- Two tables whose names differ in the case of a letter, as do two columns of the second. -/
def caseTwins : Catalogue where
  dialect := .sqlite
  schemas := [
    { table := "user", columns := [.primary "id"], relations := [] },
    { table := "User", columns := [.primary "id", .regular "ID" .int32 true], relations := [] }]
  valid := rfl

/-- To a store that does not tell the cases of letters apart, the tables have one name, and the
second has one column twice. -/
theorem not_apart_caseTwins :
    ∃ first second, caseTwins.createStatements.mapM TableDefinition.ofText? =
        some [first, second] ∧
      first.table = "user" ∧ second.table = "User" ∧
      foldCase first.table = foldCase second.table ∧
      second.columnNames = ["id", "ID", "__instance_key"] ∧
      ¬ (second.columnNames.map foldCase).Nodup := by
  refine ⟨_, _, caseTwins.definitions_ofText?, ?_⟩
  decide +kernel

end Catalogue

end RecordMapper
