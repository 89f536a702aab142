import RecordMapper.Proofs.Reading
import RecordMapper.Proofs.Registry

/-!
# Definitions of tables are read back

* `TableDefinition`: what the text of a creation says about a table: its columns, their types, and
  which of them must not be null.
* `TableDefinition.ofText?`: the definition in a text.
* `TableDefinition.ofText?_render`: it is what was written.

A type may hold parentheses, so a clause ends at a comma or a parenthesis that is not one of its
own.
-/

namespace RecordMapper

/-- A column as a definition has it. -/
structure ColumnClause where
  name : String
  type : String
  isRequired : Bool
deriving DecidableEq, Repr

/-- A table as a statement defines it. -/
structure TableDefinition where
  table : String
  columns : List ColumnClause
deriving DecidableEq, Repr

/-- What is said of a column. -/
def StoredColumn.clause (dialect : Dialect) (column : StoredColumn) : ColumnClause where
  name := column.name
  type := column.type.render dialect
  isRequired := column.isRequired

/-- What is said of a table. -/
def CreateTable.definition (dialect : Dialect) (create : CreateTable) : TableDefinition where
  table := create.table
  columns := create.columns.map (·.clause dialect)

/-! ## Clauses -/

namespace Dialect

theorem toList_varchar (length : Nat) : (varchar length).toList =
    "VARCHAR(".toList ++ (Decimal.ofNat length).toList ++ [')'] := by
  change ("VARCHAR(" ++ Decimal.ofNat length ++ ")").toList = _
  rw [String.toList_append, String.toList_append]
  rfl

theorem columnType_varchar (dialect : Dialect) (maxLength : UInt64) :
    dialect.columnType (.varchar maxLength) = varchar maxLength.toNat := by
  cases dialect <;> rfl

end Dialect

namespace ColumnClause

/-- What a clause says after its type when the column must not be null. -/
def requirement : String := " NOT NULL"

/-- The clause of a name and of the text behind it. -/
def ofBody (name body : String) : ColumnClause :=
  if requirement.toList.isSuffixOf body.toList then
    { name
      type := String.ofList (body.toList.take (body.toList.length - requirement.toList.length))
      isRequired := true }
  else { name, type := body, isRequired := false }

theorem ofBody_required (name type : String) :
    ofBody name (type ++ requirement) = { name, type, isRequired := true } := by
  have hsuffix : requirement.toList.isSuffixOf (type.toList ++ requirement.toList) :=
    List.isSuffixOf_iff_suffix.mpr (List.suffix_append _ _)
  rw [ofBody, String.toList_append, if_pos hsuffix, List.length_append, Nat.add_sub_cancel,
    List.take_left, String.ofList_toList]

theorem ofBody_optional (name : String) {type : String}
    (h : type.toList.getLast? ≠ requirement.toList.getLast?) :
    ofBody name type = { name, type, isRequired := false } := by
  have hsuffix : ¬ requirement.toList.isSuffixOf type.toList = true := by
    rw [List.isSuffixOf_iff_suffix]
    rintro ⟨start, hstart⟩
    apply h
    rw [← hstart]
    exact List.getLast?_append_of_ne_nil start (List.cons_ne_nil _ _)
  rw [ofBody, if_neg hsuffix]

end ColumnClause

theorem StoredType.getLast?_render (dialect : Dialect) (type : StoredType) :
    (type.render dialect).toList.getLast? ≠ ColumnClause.requirement.toList.getLast? := by
  have hvarchar : ∀ length, (Dialect.varchar length).toList.getLast? = some ')' := by
    intro length
    rw [Dialect.toList_varchar]
    exact List.getLast?_append_of_ne_nil _ (List.cons_ne_nil _ _)
  cases type with
  | key =>
    rw [render, Dialect.keyType, hvarchar]
    decide
  | declared kind =>
    cases kind with
    | varchar maxLength =>
      rw [render, Dialect.columnType_varchar, hvarchar]
      decide
    | primary | int32 | uint32 => cases dialect <;> decide

namespace SqlReader

/-- Whether a character may stand in a type outside of parentheses. -/
def isTypeChar (c : Char) : Bool := c != ',' && c != '(' && c != ')'

/-- Where a clause ends. -/
def Closes (rest : List Char) : Prop := ∀ c ∈ rest.head?, c = ',' ∨ c = ')'

/-- Takes a type, and what is said of it. -/
def clauseBody : SqlReader String := do
  let start ← span isTypeChar
  if (← get).head? = some '(' then
    symbol "("
    let length ← span Char.isDigit
    symbol ")"
    return start ++ "(" ++ length ++ ")" ++ (← span isTypeChar)
  else return start

/-- Takes a clause. -/
def clause : SqlReader ColumnClause := do
  let column ← name
  symbol " "
  return .ofBody column (← clauseBody)

theorem Closes.not_isTypeChar {rest : List Char} (h : Closes rest) :
    ∀ c ∈ rest.head?, isTypeChar c = false := by
  intro c hc
  rcases h c hc with rfl | rfl <;> rfl

theorem run_clauseBody_plain {s : String} (hs : s.toList.all isTypeChar) {rest : List Char}
    (hrest : Closes rest) : clauseBody.run (s.toList ++ rest) = some (s, rest) := by
  have hopen : rest.head? ≠ some '(' := by
    intro hc
    rcases hrest _ hc with h | h <;> cases h
  rw [clauseBody, run_bind_of (run_span hs hrest.not_isTypeChar), run_bind_of (run_get rest),
    if_neg hopen]
  rfl

theorem run_clauseBody_varchar (length : Nat) {s : String} (hs : s.toList.all isTypeChar)
    {rest : List Char} (hrest : Closes rest) :
    clauseBody.run ((Dialect.varchar length ++ s).toList ++ rest) =
      some (Dialect.varchar length ++ s, rest) := by
  have hdigits : (Decimal.ofNat length).toList.all Char.isDigit :=
    List.all_eq_true.mpr fun c hc => Decimal.isDigit_of_mem_ofNat hc
  have hstart : ∀ more, ∀ c ∈ ("(".toList ++ more).head?, isTypeChar c = false := by
    rintro more _ ⟨⟩
    rfl
  have hend : ∀ more, ∀ c ∈ (")".toList ++ more).head?, Char.isDigit c = false := by
    rintro more _ ⟨⟩
    rfl
  have htext : (Dialect.varchar length ++ s).toList ++ rest =
      "VARCHAR".toList ++ ("(".toList ++ ((Decimal.ofNat length).toList ++ (")".toList ++
        (s.toList ++ rest)))) := by
    simp only [String.toList_append, Dialect.toList_varchar, List.append_assoc]
    rfl
  have hopen : ∀ more, ("(".toList ++ more).head? = some '(' := fun _ => rfl
  have hword : "VARCHAR".toList.all isTypeChar := rfl
  rw [htext, clauseBody, run_bind_of (run_span hword (hstart _)), run_bind_of (run_get _),
    if_pos (hopen _), run_bind_of (run_symbol "(" _), run_bind_of (run_span hdigits (hend _)),
    run_bind_of (run_symbol ")" _), run_bind_of (run_span hs hrest.not_isTypeChar)]
  rfl

theorem run_clauseBody (dialect : Dialect) (type : StoredType) {s : String}
    (hs : s.toList.all isTypeChar) {rest : List Char} (hrest : Closes rest) :
    clauseBody.run ((type.render dialect ++ s).toList ++ rest) =
      some (type.render dialect ++ s, rest) := by
  have hplain : ∀ text : String, text.toList.all isTypeChar →
      clauseBody.run ((text ++ s).toList ++ rest) = some (text ++ s, rest) := by
    intro text htext
    refine run_clauseBody_plain ?_ hrest
    rw [String.toList_append, List.all_append, htext, hs]
    rfl
  cases type with
  | key => exact run_clauseBody_varchar _ hs hrest
  | declared kind =>
    cases kind with
    | varchar maxLength => cases dialect <;> exact run_clauseBody_varchar _ hs hrest
    | primary | int32 | uint32 => cases dialect <;> exact hplain _ rfl

theorem run_clause (dialect : Dialect) {column : StoredColumn} (hname : Quotable column.name)
    {rest : List Char} (hrest : Closes rest) :
    clause.run ((column.render dialect).toList ++ rest) = some (column.clause dialect, rest) := by
  have hspace : ∀ more, Ends (" ".toList ++ more) := fun more => ends_of_isEnding rfl more
  have hbody : ∀ s : String, s.toList.all isTypeChar →
      clause.run ((Dialect.identifier column.name ++ " " ++ column.type.render dialect ++ s).toList
        ++ rest) = some (.ofBody column.name (column.type.render dialect ++ s), rest) := by
    intro s hs
    have htext : (Dialect.identifier column.name ++ " " ++ column.type.render dialect ++ s).toList
        ++ rest = (Dialect.identifier column.name).toList ++ (" ".toList ++
          ((column.type.render dialect ++ s).toList ++ rest)) := by
      simp only [String.toList_append, List.append_assoc]
    rw [htext, clause, run_bind_of (run_name hname (hspace _)), run_bind_of (run_symbol " " _),
      run_bind_of (run_clauseBody dialect column.type hs hrest)]
    rfl
  rw [StoredColumn.render, StoredColumn.clause]
  cases column.isRequired with
  | true =>
    rw [if_pos rfl, hbody _ rfl]
    exact congrArg (fun c => some (c, rest)) (ColumnClause.ofBody_required _ _)
  | false =>
    rw [if_neg Bool.false_ne_true, hbody _ rfl, String.append_empty,
      ColumnClause.ofBody_optional _ (StoredType.getLast?_render dialect column.type)]

end SqlReader

/-! ## Definitions -/

namespace TableDefinition

open SqlReader

/-- Takes a definition, with a bound on the number of its columns. -/
def reader (bound : Nat) : SqlReader TableDefinition := do
  symbol "CREATE TABLE IF NOT EXISTS "
  let table ← name
  symbol " ("
  let columns ← separated clause bound
  symbol ")"
  return { table, columns }

/-- The definition in a whole statement. -/
def ofText? (sql : String) : Option TableDefinition :=
  match (reader sql.toList.length).run sql.toList with
  | some (definition, []) => some definition
  | _ => none

theorem length_columns_le (dialect : Dialect) (create : CreateTable) :
    create.columns.length ≤ (create.render dialect).toList.length := by
  have hcolumns : create.columns.length ≤
      (", ".intercalate (create.columns.map (·.render dialect))).toList.length := by
    refine length_le_intercalate fun column _ => ?_
    have hname := one_le_length_identifier column.name
    simp only [StoredColumn.render, String.toList_append, List.length_append]
    omega
  unfold CreateTable.render
  simp only [String.toList_append, List.length_append]
  omega

/-- A definition is read back from its text. -/
theorem ofText?_render (dialect : Dialect) {create : CreateTable} (htable : Quotable create.table)
    (hnames : ∀ column ∈ create.columns, Quotable column.name) (hne : create.columns ≠ []) :
    ofText? (create.render dialect) = some (create.definition dialect) := by
  have hspace : ∀ more, Ends (" (".toList ++ more) := fun more => ends_of_isEnding rfl more
  have hclose : Closes (")".toList ++ []) := by
    rintro _ ⟨⟩
    exact .inr rfl
  have hcomma : (")".toList ++ []).head? ≠ some ',' := by decide
  have hsep : ∀ more, Closes (", ".toList ++ more) := by
    rintro more _ ⟨⟩
    exact .inl rfl
  have hclause : ∀ column ∈ create.columns, ∀ more, Closes more →
      clause.run ((column.render dialect).toList ++ more) = some (column.clause dialect, more) :=
    fun column hcolumn more hmore => run_clause dialect (hnames column hcolumn) hmore
  have hclauses := run_separated_of hsep hclause hne (length_columns_le dialect create) hclose
    hcomma
  have htext : (create.render dialect).toList = "CREATE TABLE IF NOT EXISTS ".toList ++
      ((Dialect.identifier create.table).toList ++ (" (".toList ++
        ((", ".intercalate (create.columns.map (·.render dialect))).toList ++
          (")".toList ++ [])))) := by
    unfold CreateTable.render
    simp only [String.toList_append, List.append_assoc, List.append_nil]
  have hrun : (reader (create.render dialect).toList.length).run (create.render dialect).toList =
      some (create.definition dialect, []) := by
    generalize (create.render dialect).toList.length = bound at hclauses ⊢
    rw [htext, reader, run_bind_of (run_symbol _ _), run_bind_of (run_name htable (hspace _)),
      run_bind_of (run_symbol _ _), run_bind_of hclauses, run_bind_of (run_symbol _ _)]
    rfl
  rw [ofText?, hrun]

end TableDefinition

/-- The definition of the table of a registered schema. -/
theorem Schema.definition_ofText? (dialect : Dialect) {schema : Schema} (h : schema.NamesQuotable) :
    TableDefinition.ofText? ((CreateTable.ofSchema schema).render dialect) =
      some ((CreateTable.ofSchema schema).definition dialect) := by
  refine TableDefinition.ofText?_render dialect h.table (fun column hcolumn => ?_) ?_
  · have hname : column.name ∈ schema.storedColumns.map (·.name) := List.mem_map_of_mem hcolumn
    rw [schema.map_name_storedColumns] at hname
    exact h.storedNames _ hname
  · exact List.append_ne_nil_of_right_ne_nil _ (List.cons_ne_nil _ _)

theorem CreateTable.map_name_definition (dialect : Dialect) (schema : Schema) :
    ((ofSchema schema).definition dialect).columns.map (·.name) = schema.storedNames := by
  rw [definition, List.map_map, ← schema.map_name_storedColumns]
  rfl

end RecordMapper
