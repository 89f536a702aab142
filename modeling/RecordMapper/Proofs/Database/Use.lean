import RecordMapper.Database
import RecordMapper.Proofs.Runs

/-!
# Using a database

* `Database.Answer.read_eq_ok_iff`, `Database.Answer.read_eq_error`: the rows of an answer, and why
  there are none.
* `Database.isClosed_close`, `Database.refuses_of_isClosed`: a database that was closed refuses
  every call, and nothing is done to close it again.
-/

namespace RecordMapper.Database

/-! ## Answers -/

namespace Answer

variable {answer : Answer}

/-- The row of some values, as it is read for an answer. -/
theorem readRow_mapError_eq_ok_iff {columns : List (String × Datum)} {row : Row} :
    (readRow columns).mapError Fault.column = .ok row ↔ readRow columns = .ok row := by
  cases readRow columns <;> simp [Except.mapError]

theorem readRow_mapError_eq_error_iff {columns : List (String × Datum)} {fault : Fault} :
    (readRow columns).mapError Fault.column = .error fault ↔
      ∃ cause, readRow columns = .error cause ∧ fault = .column cause := by
  cases readRow columns <;> simp [Except.mapError, eq_comm]

/-- An answer has rows just if the engine gave all of them, and each value has a text. -/
theorem read_eq_ok_iff {rows : List Row} :
    answer.read = .ok rows ↔ answer.refusal = none ∧
      List.Forall₂ (fun values row => readRow (answer.columns.zip values) = .ok row)
        answer.rows rows := by
  unfold read
  rw [bind_eq_ok]
  simp only [mapM_eq_ok, readRow_mapError_eq_ok_iff]
  constructor
  · rintro ⟨found, hfound, h⟩
    split at h
    · cases h
    · next hrefusal =>
      cases h
      exact ⟨hrefusal, hfound⟩
  · rintro ⟨hrefusal, hrows⟩
    exact ⟨rows, hrows, by rw [hrefusal]; rfl⟩

/-- An answer that has no rows has a first one with a value without a text, or else the engine has
refused to give more. -/
theorem read_eq_error {fault : Fault} (h : answer.read = .error fault) :
    (∃ before values after cause, answer.rows = before ++ values :: after ∧
        (∀ values ∈ before, ∃ row, readRow (answer.columns.zip values) = .ok row) ∧
        readRow (answer.columns.zip values) = .error cause ∧ fault = .column cause) ∨
      ∃ words, answer.refusal = some words ∧ fault = .engine words := by
  unfold read at h
  cases hrows : answer.rows.mapM fun values =>
      (readRow (answer.columns.zip values)).mapError Fault.column with
  | error fault' =>
    rw [hrows] at h
    cases h
    obtain ⟨before, values, after, hsplit, hbefore, hvalues⟩ := exists_of_mapM_eq_error hrows
    obtain ⟨cause, hcause, hfault⟩ := readRow_mapError_eq_error_iff.mp hvalues
    simp only [readRow_mapError_eq_ok_iff] at hbefore
    exact .inl ⟨before, values, after, cause, hsplit, hbefore, hcause, hfault⟩
  | ok rows =>
    rw [hrows] at h
    cases hrefusal : answer.refusal with
    | none =>
      rw [hrefusal] at h
      cases h
    | some words =>
      rw [hrefusal] at h
      cases h
      exact .inr ⟨words, rfl, rfl⟩

end Answer

/-! ## Closed databases -/

variable {σ κ : Type} (engine : Engine σ κ) {database : Database κ} (state : σ)

/-- After it was closed a database is closed, even if the engine refused to close it. -/
theorem isClosed_close : (database.close engine state).2.1.isClosed = true := by
  unfold close
  split
  · next hclosed => simp [isClosed, hclosed]
  · rfl

/-- A database that was closed refuses every call, and nothing is done to close it again. -/
theorem refuses_of_isClosed (h : database.isClosed = true) (sql : String) :
    database.execute engine sql state = (.error .closed, state) ∧
      database.query engine sql state = (.error .closed, state) ∧
      database.close engine state = (.ok (), database, state) := by
  have hnone : database.connection? = none := Option.isNone_iff_eq_none.mp h
  unfold execute query close
  rw [hnone]
  exact ⟨rfl, rfl, rfl⟩

end RecordMapper.Database
