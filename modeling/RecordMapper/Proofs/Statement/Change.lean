import RecordMapper.Proofs.Reading
import RecordMapper.Proofs.Statement.Unambiguous
import RecordMapper.Statement.Write

/-!
# Changes are read back

* `Update.assignments?`: the assignments in the text of a change.
* `Update.ofText?`: the change that a statement asks for, with its condition.
* `Update.assignments?_render`, `Update.ofText?_render`: they are those that were written.
-/

namespace RecordMapper

namespace SqlReader

/-- Takes an assignment. -/
def assignment (dialect : Dialect) : SqlReader Entry := do
  let column ← name
  symbol " = "
  return { name := column, literal := ← literal dialect }

theorem run_assignment (dialect : Dialect) {entry : Entry} (hname : Quotable entry.name)
    {rest : List Char} (hrest : Ends rest) :
    (assignment dialect).run ((Dialect.identifier entry.name ++ " = " ++
      dialect.literal entry.literal).toList ++ rest) = some (entry, rest) := by
  have hequals : ∀ more, Ends (" = ".toList ++ more) := fun more => ends_of_isEnding rfl more
  have htext : (Dialect.identifier entry.name ++ " = " ++ dialect.literal entry.literal).toList ++
      rest = (Dialect.identifier entry.name).toList ++ (" = ".toList ++
        ((dialect.literal entry.literal).toList ++ rest)) := by
    simp only [String.toList_append, List.append_assoc]
  rw [htext, assignment, run_bind_of (run_name hname (hequals _)), run_bind_of (run_symbol _ _),
    run_bind_of (run_literal dialect entry.literal hrest)]
  rfl

end SqlReader

/-! ## Conditions at the end -/

namespace Condition

open SqlReader

/-- Takes the clause of a condition up to the end of the text, with a bound on its depth. -/
def clauseReader (dialect : Dialect) (bound : Nat) : SqlReader (Option Condition) := do
  if (← get).isEmpty then
    return none
  else
    symbol " WHERE "
    return some (← reader dialect bound)

theorem run_clauseReader (dialect : Dialect) {condition : Option Condition}
    (hnames : ∀ found, condition = some found → ∀ n ∈ found.columns, Quotable n) {bound : Nat}
    (hbound : (clause dialect condition).toList.length ≤ bound) :
    (clauseReader dialect bound).run (clause dialect condition).toList = some (condition, []) := by
  cases condition with
  | none => rfl
  | some found =>
    have htext : (clause dialect (some found)).toList =
        " WHERE ".toList ++ (found.render dialect).toList := String.toList_append
    have hdepth : found.depth ≤ bound := by
      have hlength := found.depth_le_length dialect
      rw [htext, List.length_append] at hbound
      omega
    have hread := run_reader dialect (hnames found rfl) hdepth []
    have hsome : ¬ (" WHERE ".toList ++ (found.render dialect).toList).isEmpty = true :=
      Bool.false_ne_true
    rw [List.append_nil] at hread
    rw [htext, clauseReader, run_bind_of (run_get _), if_neg hsome,
      run_bind_of (run_symbol _ _), run_bind_of hread]
    rfl

end Condition

namespace Update

open SqlReader

/-- Takes a change up to its condition, with a bound on the number of its assignments. -/
def reader (dialect : Dialect) (bound : Nat) : SqlReader (String × List Entry) := do
  symbol "UPDATE "
  let table ← name
  symbol " SET "
  return (table, ← separated (assignment dialect) bound)

/-- The assignments in a statement. -/
def assignments? (dialect : Dialect) (sql : String) : Option (List Entry) :=
  ((reader dialect sql.toList.length).run sql.toList).map (·.1.2)

/-- Takes a whole change, with a bound on its size. -/
def whole (dialect : Dialect) (bound : Nat) : SqlReader Update := do
  let (table, entries) ← reader dialect bound
  return { table, entries, condition := ← Condition.clauseReader dialect bound }

/-- The change of a whole statement. -/
def ofText? (dialect : Dialect) (sql : String) : Option Update :=
  match (whole dialect sql.toList.length).run sql.toList with
  | some (update, []) => some update
  | _ => none

theorem ends_clause (dialect : Dialect) (condition : Option Condition) :
    Ends (Condition.clause dialect condition).toList ∧
      (Condition.clause dialect condition).toList.head? ≠ some ',' := by
  cases condition with
  | none => exact ⟨nofun, nofun⟩
  | some condition =>
    rw [Condition.clause, String.toList_append]
    exact ⟨ends_of_isEnding rfl _, nofun⟩

section Render

variable (dialect : Dialect) {update : Update}

theorem toList_render : (update.render dialect).toList = "UPDATE ".toList ++
    ((Dialect.identifier update.table).toList ++ (" SET ".toList ++
      ((", ".intercalate (update.entries.map fun entry => Dialect.identifier entry.name ++ " = " ++
          dialect.literal entry.literal)).toList ++
        (Condition.clause dialect update.condition).toList))) := by
  unfold render
  simp only [String.toList_append, List.append_assoc]

theorem length_entries_le : update.entries.length ≤ (update.render dialect).toList.length := by
  have hlist : update.entries.length ≤ (", ".intercalate (update.entries.map fun entry =>
      Dialect.identifier entry.name ++ " = " ++ dialect.literal entry.literal)).toList.length := by
    refine length_le_intercalate fun entry _ => ?_
    have hname := one_le_length_identifier entry.name
    simp only [String.toList_append, List.length_append]
    omega
  rw [toList_render]
  simp only [List.length_append]
  omega

theorem length_clause_le : (Condition.clause dialect update.condition).toList.length ≤
    (update.render dialect).toList.length := by
  rw [toList_render]
  simp only [List.length_append]
  omega

variable (htable : Quotable update.table) (hnames : ∀ entry ∈ update.entries, Quotable entry.name)
  (hne : update.entries ≠ [])

include htable hnames hne

theorem run_reader {bound : Nat} (hbound : update.entries.length ≤ bound) :
    (reader dialect bound).run (update.render dialect).toList =
      some ((update.table, update.entries),
        (Condition.clause dialect update.condition).toList) := by
  have hset : ∀ rest, Ends (" SET ".toList ++ rest) := fun rest => ends_of_isEnding rfl rest
  obtain ⟨hends, hcomma⟩ := ends_clause dialect update.condition
  have hassignments : (separated (assignment dialect) bound).run _ =
      some (update.entries.map id, (Condition.clause dialect update.condition).toList) :=
    run_separated
      (fun entry hentry more hmore => run_assignment dialect (hnames entry hentry) hmore)
      hne hbound hends hcomma
  rw [toList_render, reader, run_bind_of (run_symbol _ _), run_bind_of (run_name htable (hset _)),
    run_bind_of (run_symbol _ _), run_bind_of hassignments, List.map_id]
  rfl

/-- The assignments of a change are read back from its text. -/
theorem assignments?_render :
    assignments? dialect (update.render dialect) = some update.entries := by
  rw [assignments?, run_reader dialect htable hnames hne (length_entries_le dialect)]
  rfl

/-- The text of a change determines it. -/
theorem ofText?_render (hcondition : ∀ found, update.condition = some found →
    ∀ n ∈ found.columns, Quotable n) :
    ofText? dialect (update.render dialect) = some update := by
  have hread := run_reader dialect htable hnames hne (length_entries_le dialect)
  rw [ofText?, whole, run_bind_of hread,
    run_bind_of (Condition.run_clauseReader dialect hcondition (length_clause_le dialect))]
  rfl

end Render

end Update

end RecordMapper
