import RecordMapper.Proofs.Statement.Change
import RecordMapper.Proofs.Statement.Selection

/-!
# The table of a statement

* `targetTable?`: the table that a statement is about, found in its text alone.
* `Insert.targetTable?_render`, `Update.targetTable?_render`, `Delete.targetTable?_render`,
  `Select.targetTable?_render`: it is the table for which the statement was made.

A reading names columns before its table, and a name may hold any word of the language. So they are
taken one by one, up to the word that comes before the table.
-/

namespace RecordMapper

open SqlReader

/-- Takes a statement up to the name of its table, with a bound on the names before it. -/
def SqlReader.target (bound : Nat) : SqlReader String := do
  match ← word with
  | "INSERT" =>
    symbol " INTO "
    name
  | "UPDATE" =>
    symbol " "
    name
  | "DELETE" =>
    symbol " FROM "
    name
  | "SELECT" =>
    symbol " "
    let _ ← Projection.reader bound
    symbol " FROM "
    name
  | _ => failure

/-- The table that a statement is about. -/
def targetTable? (sql : String) : Option String :=
  ((target sql.toList.length).run sql.toList).map Prod.fst

theorem Ends.append {text : String} (h : Ends text.toList) {rest : List Char} (hrest : Ends rest) :
    Ends (text.toList ++ rest) := by
  cases htext : text.toList with
  | nil => exact hrest
  | cons c chars =>
    rw [htext] at h
    exact h

/-- What follows the table in a reading. -/
theorem Select.ends_render (dialect : Dialect) (condition : Option Condition)
    (order : List OrderEntry) (limit offset : Option UInt64) :
    Ends ((Condition.clause dialect condition).toList ++ ((orderClause order).toList ++
      (pageClause dialect limit offset).toList)) := by
  have horder : Ends (orderClause order).toList := by
    cases order with
    | nil => exact ends_nil
    | cons entry rest =>
      rw [orderClause, String.toList_append]
      · exact ends_of_isEnding rfl _
      · exact List.cons_ne_nil entry rest
  have hpage : Ends (pageClause dialect limit offset).toList := by
    cases limit <;> cases offset
    case none.none => exact ends_nil
    all_goals
      simp only [pageClause, String.toList_append, List.append_assoc]
      exact ends_of_isEnding rfl _
  exact (Update.ends_clause dialect condition).1.append (horder.append hpage)

/-! ## Tables that are read back -/

section Render

variable (dialect : Dialect)

theorem Insert.targetTable?_render {insert : Insert} (htable : Quotable insert.table) :
    targetTable? (insert.render dialect) = some insert.table := by
  obtain ⟨values, hvalues⟩ : ∃ values, insert.render dialect =
      "INSERT INTO " ++ Dialect.identifier insert.table ++ " " ++ values := ⟨_, rfl⟩
  have htext : (insert.render dialect).toList = "INSERT".toList ++ (" INTO ".toList ++
      ((Dialect.identifier insert.table).toList ++ (" ".toList ++ values.toList))) := by
    rw [hvalues]
    simp only [String.toList_append, List.append_assoc]
    rfl
  have hname := run_name htable (ends_of_isEnding (s := " ") rfl values.toList)
  rw [targetTable?]
  generalize (insert.render dialect).toList.length = bound
  rw [htext, target, run_bind_of (run_word rfl rfl)]
  change Option.map Prod.fst ((symbol " INTO " >>= fun _ => name).run _) = _
  rw [run_bind_of (run_symbol _ _), hname]
  rfl

theorem Update.targetTable?_render {update : Update} (htable : Quotable update.table) :
    targetTable? (update.render dialect) = some update.table := by
  obtain ⟨changes, hchanges⟩ : ∃ changes, (update.render dialect).toList = "UPDATE".toList ++
      (" ".toList ++ ((Dialect.identifier update.table).toList ++
        (" SET ".toList ++ changes))) := by
    unfold render
    simp only [String.toList_append, List.append_assoc]
    exact ⟨_, rfl⟩
  have hname := run_name htable (ends_of_isEnding (s := " SET ") rfl changes)
  rw [targetTable?]
  generalize (update.render dialect).toList.length = bound
  rw [hchanges, target, run_bind_of (run_word rfl rfl)]
  change Option.map Prod.fst ((symbol " " >>= fun _ => name).run _) = _
  rw [run_bind_of (run_symbol _ _), hname]
  rfl

theorem Delete.targetTable?_render {delete : Delete} (htable : Quotable delete.table) :
    targetTable? (delete.render dialect) = some delete.table := by
  have htext : (delete.render dialect).toList = "DELETE".toList ++ (" FROM ".toList ++
      ((Dialect.identifier delete.table).toList ++
        (Condition.clause dialect delete.condition).toList)) := by
    unfold render
    simp only [String.toList_append, List.append_assoc]
    rfl
  have hname := run_name htable (Update.ends_clause dialect delete.condition).1
  rw [targetTable?]
  generalize (delete.render dialect).toList.length = bound
  rw [htext, target, run_bind_of (run_word rfl rfl)]
  change Option.map Prod.fst ((symbol " FROM " >>= fun _ => name).run _) = _
  rw [run_bind_of (run_symbol _ _), hname]
  rfl

theorem Select.targetTable?_render {select : Select} (htable : Quotable select.table)
    (hprojection : select.projection.Written) :
    targetTable? (select.render dialect) = some select.table := by
  have htext : (select.render dialect).toList = "SELECT".toList ++ (" ".toList ++
      (select.projection.render.toList ++ (" FROM ".toList ++
        ((Dialect.identifier select.table).toList ++
          ((Condition.clause dialect select.condition).toList ++
            ((orderClause select.order).toList ++
              (pageClause dialect select.limit select.offset).toList)))))) := by
    unfold render
    simp only [String.toList_append, List.append_assoc]
    rfl
  have hbound : select.projection.render.toList.length ≤
      (select.render dialect).toList.length := by
    rw [htext]
    simp only [List.length_append]
    omega
  have hname := run_name htable
    (ends_render dialect select.condition select.order select.limit select.offset)
  rw [targetTable?]
  generalize (select.render dialect).toList.length = bound at hbound ⊢
  rw [htext, target, run_bind_of (run_word rfl rfl)]
  change Option.map Prod.fst ((symbol " " >>= fun _ => Projection.reader bound >>= fun _ =>
    symbol " FROM " >>= fun _ => name).run _) = _
  rw [run_bind_of (run_symbol _ _), run_bind_of (Projection.run_reader hprojection hbound _),
    run_bind_of (run_symbol _ _), hname]
  rfl

end Render

end RecordMapper
