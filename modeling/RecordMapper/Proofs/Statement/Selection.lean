import RecordMapper.Proofs.Statement.Definition
import RecordMapper.Proofs.Statement.Structure

/-!
# Columns that are asked for

* `Projection.ofText?`: what the text of a reading asks for.
* `Select.returned?`: the names of the columns that a store returns for a reading, where it knows
  the definition of the table.
* `Select.returned?_render`: they are the names that a query needs (`Query.neededNames`).
-/

namespace RecordMapper

namespace Projection

open SqlReader

/-- Takes a projection, with a bound on the number of its names. -/
def reader (bound : Nat) : SqlReader Projection := do
  if (← get).head? = some '*' then
    symbol "*"
    return .all
  else return .names (← separated name bound)

/-- Takes the start of a reading, up to its table. -/
def selectReader (bound : Nat) : SqlReader Projection := do
  symbol "SELECT "
  let projection ← reader bound
  symbol " FROM "
  return projection

/-- The projection in a whole statement. -/
def ofText? (sql : String) : Option Projection :=
  ((selectReader sql.toList.length).run sql.toList).map Prod.fst

/-- The names of a projection can be written, and there are some if it has names at all. -/
def Written : Projection → Prop
  | .all => True
  | .names list => list ≠ [] ∧ ∀ n ∈ list, Quotable n

theorem run_reader {projection : Projection} (h : projection.Written) {bound : Nat}
    (hbound : projection.render.toList.length ≤ bound) (rest : List Char) :
    (reader bound).run (projection.render.toList ++ (" FROM ".toList ++ rest)) =
      some (projection, " FROM ".toList ++ rest) := by
  cases projection with
  | all =>
    have hstar : ("*".toList ++ (" FROM ".toList ++ rest)).head? = some '*' := rfl
    rw [render, reader, run_bind_of (run_get _), if_pos hstar, run_bind_of (run_symbol "*" _)]
    rfl
  | names list =>
    obtain ⟨hne, hnames⟩ := h
    have hstar : ((", ".intercalate (list.map Dialect.identifier)).toList ++
        (" FROM ".toList ++ rest)).head? ≠ some '*' := by
      rw [head?_names hne]
      decide
    have hcount : list.length ≤ bound :=
      Nat.le_trans (length_le_intercalate fun n _ => one_le_length_identifier n) hbound
    have hcomma : (" FROM ".toList ++ rest).head? ≠ some ',' := by
      intro h
      cases h
    have hread : (separated name bound).run ((", ".intercalate
        (list.map Dialect.identifier)).toList ++ (" FROM ".toList ++ rest)) =
          some (list.map id, " FROM ".toList ++ rest) :=
      run_separated (fun n hn more hmore => run_name (hnames n hn) hmore) hne hcount
        (ends_of_isEnding rfl _) hcomma
    rw [render, reader, run_bind_of (run_get _), if_neg hstar, run_bind_of hread, List.map_id]
    rfl

end Projection

namespace Select

open SqlReader

theorem projection_ofText? (dialect : Dialect) {select : Select} (h : select.projection.Written) :
    Projection.ofText? (select.render dialect) = some select.projection := by
  obtain ⟨more, htext⟩ : ∃ more : List Char, (select.render dialect).toList =
      "SELECT ".toList ++ (select.projection.render.toList ++ (" FROM ".toList ++ more)) := by
    refine ⟨(Dialect.identifier select.table ++ Condition.clause dialect select.condition ++
      orderClause select.order ++ pageClause dialect select.limit select.offset).toList, ?_⟩
    unfold render
    simp only [String.toList_append, List.append_assoc]
  have hbound : select.projection.render.toList.length ≤
      (select.render dialect).toList.length := by
    rw [htext]
    simp only [List.length_append]
    omega
  rw [Projection.ofText?, Projection.selectReader]
  generalize (select.render dialect).toList.length = bound at hbound ⊢
  rw [htext, run_bind_of (run_symbol "SELECT " _), run_bind_of (Projection.run_reader h hbound _),
    run_bind_of (run_symbol " FROM " _)]
  rfl

/-- The names of the columns that come back for a reading: those that it names, or else those of the
definition of the table. -/
def returned? (sql definition : String) : Option (List String) :=
  match Projection.ofText? sql with
  | some .all => (TableDefinition.ofText? definition).map fun table => table.columns.map (·.name)
  | some (.names list) => some list
  | none => none

end Select

/-! ## Names that a query needs -/

namespace Query

/-- The columns that are read for a query. -/
def neededNames (schema : Schema) (query : Query) : List String :=
  match Select.projectionOf schema query with
  | .all => schema.storedNames
  | .names list => list

variable {schema : Schema} {query : Query}

theorem column_mem_neededNames {column : Column} (hcolumn : column ∈ schema.columns)
    (h : (query.columns.isEmpty || decide (column.name ∈ query.columns)) = true) :
    column.name ∈ query.neededNames schema := by
  rw [neededNames, Select.projectionOf]
  by_cases hall : query.columns.isEmpty
  · rw [if_pos hall]
    exact List.mem_append_left _ (List.mem_map_of_mem hcolumn)
  · rw [if_neg hall]
    have hnamed : column.name ∈ query.columns := by simpa [hall] using h
    refine List.mem_append_left _ (List.mem_filter.mpr ⟨List.mem_map_of_mem hcolumn, ?_⟩)
    exact decide_eq_true hnamed

theorem instanceKey_mem_neededNames : instanceKeyColumn ∈ query.neededNames schema := by
  rw [neededNames, Select.projectionOf]
  by_cases hall : query.columns.isEmpty
  · rw [if_pos hall]
    exact List.mem_append_right _ List.mem_cons_self
  · rw [if_neg hall]
    exact List.mem_append_right _ List.mem_cons_self

theorem relation_mem_neededNames {relation : Relation} (hrelation : relation ∈ schema.relations)
    (hside : relation.side = .left) (hasked : relation.key ∈ query.relations) :
    relation.key ∈ query.neededNames schema := by
  have howned : relation ∈ schema.ownedRelations :=
    List.mem_filter.mpr ⟨hrelation, by rw [Relation.ownsColumn, hside]; rfl⟩
  rw [neededNames, Select.projectionOf]
  by_cases hall : query.columns.isEmpty
  · rw [if_pos hall]
    exact List.mem_append_right _ (List.mem_cons_of_mem _ (List.mem_map_of_mem howned))
  · rw [if_neg hall]
    refine List.mem_append_right _ (List.mem_cons_of_mem _ ?_)
    exact List.mem_filter.mpr ⟨List.mem_map_of_mem howned, decide_eq_true hasked⟩

end Query

theorem Schema.NamesQuotable.written_projectionOf {schema : Schema} (h : schema.NamesQuotable)
    (query : Query) : (Select.projectionOf schema query).Written := by
  cases hprojection : Select.projectionOf schema query with
  | all => trivial
  | names list =>
    refine ⟨?_, fun n hn => ?_⟩
    · rw [Select.projectionOf] at hprojection
      split at hprojection
      · cases hprojection
      · cases hprojection
        exact List.append_ne_nil_of_right_ne_nil _ (List.cons_ne_nil _ _)
    · exact h.storedNames n (Select.mem_storedNames_of_projectionOf hprojection n hn)

/-- What comes back for a query, as its text and that of the definition of the table say it. -/
theorem Select.returned?_render (dialect : Dialect) {schema : Schema} (h : schema.NamesQuotable)
    {query : Query} {select : Select} (hselect : ofQuery schema query = .ok select) :
    returned? (select.render dialect) ((CreateTable.ofSchema schema).render dialect) =
      some (query.neededNames schema) := by
  have hprojection : select.projection = projectionOf schema query := by
    rw [(Query.select_of_ofQuery hselect).2]
  have hread := projection_ofText? dialect (hprojection ▸ h.written_projectionOf query)
  rw [returned?, hread, hprojection, Query.neededNames]
  cases projectionOf schema query with
  | all =>
    dsimp only
    rw [schema.definition_ofText? dialect h, Option.map_some, CreateTable.map_name_definition]
  | names list => rfl

end RecordMapper
