import Mathlib.Data.List.Basic
import RecordMapper.Database

/-!
# Opening a database

* `Outcome.Returns`: something ends with a result or with a fault that is reported.
* `Database.Engine.exists_refused`: several statements are executed up to the first one that is
  refused.
* `Database.openFile_eq_noParent_iff`: when it is said that no directory is above that of a path.
* `Database.openFile_returns_iff`: when an opening ends with a result or with a fault.
-/

namespace RecordMapper

/-! ## Outcomes -/

namespace Outcome

variable {ε δ α : Type}

/-- Something ends with a result or with a fault that is reported, and does not break down. -/
def Returns (outcome : Outcome ε α) : Prop :=
  (∃ result, outcome = .done result) ∨ ∃ fault, outcome = .failed fault

theorem returns_iff_ne_crashed {outcome : Outcome ε α} :
    outcome.Returns ↔ outcome ≠ .crashed := by
  constructor
  · rintro (⟨_, rfl⟩ | ⟨_, rfl⟩) <;> nofun
  · intro h
    cases outcome with
    | done result => exact .inl ⟨result, rfl⟩
    | failed fault => exact .inr ⟨fault, rfl⟩
    | crashed => exact absurd rfl h

instance (outcome : Outcome ε α) : Decidable outcome.Returns :=
  match outcome with
  | .done result => isTrue (.inl ⟨result, rfl⟩)
  | .failed fault => isTrue (.inr ⟨fault, rfl⟩)
  | .crashed => isFalse fun h => returns_iff_ne_crashed.mp h rfl

theorem returns_ofExcept (result : Except ε α) : (ofExcept result).Returns := by
  cases result with
  | ok result => exact .inl ⟨result, rfl⟩
  | error fault => exact .inr ⟨fault, rfl⟩

theorem returns_mapFault {f : ε → δ} {outcome : Outcome ε α} (h : outcome.Returns) :
    (outcome.mapFault f).Returns := by
  obtain ⟨result, rfl⟩ | ⟨fault, rfl⟩ := h
  · exact .inl ⟨result, rfl⟩
  · exact .inr ⟨f fault, rfl⟩

theorem mapFault_eq_failed_iff {f : ε → δ} {outcome : Outcome ε α} {fault : δ} :
    outcome.mapFault f = .failed fault ↔ ∃ e, outcome = .failed e ∧ f e = fault := by
  cases outcome <;> simp [mapFault]

theorem ofExcept_eq_failed_iff {result : Except ε α} {fault : ε} :
    ofExcept result = .failed fault ↔ result = .error fault := by
  cases result <;> simp [ofExcept]

end Outcome

namespace Database

variable {σ κ : Type} {system : System σ} {engine : Engine σ κ}

/-! ## Statements -/

namespace Engine

variable {connection : κ} {statements : List String} {state after : σ} {words : String}

theorem executeAll_cons (engine : Engine σ κ) (connection : κ) (sql : String) (rest : List String)
    (state : σ) : engine.executeAll connection (sql :: rest) state =
      match engine.execute connection sql state with
      | (.error words, after) => (.error words, after)
      | (.ok (), after) => engine.executeAll connection rest after := rfl

/-- Several statements are executed in order, up to the first one that is refused. By induction on
the statements: one that is not refused is before the one that is. -/
theorem exists_refused (h : engine.executeAll connection statements state = (.error words, after)) :
    ∃ before sql rest middle, statements = before ++ sql :: rest ∧
      engine.executeAll connection before state = (.ok (), middle) ∧
      engine.execute connection sql middle = (.error words, after) := by
  induction statements generalizing state with
  | nil => cases h
  | cons sql rest ih =>
    rw [executeAll_cons] at h
    split at h
    · next hsql =>
      cases h
      exact ⟨[], sql, rest, state, rfl, rfl, hsql⟩
    · next next hsql =>
      obtain ⟨before, refused, left, middle, rfl, hbefore, hrefused⟩ := ih h
      refine ⟨sql :: before, refused, left, middle, rfl, ?_, hrefused⟩
      rw [executeAll_cons, hsql]
      exact hbefore

/-- A connection that is set up has executed all of the statements. One that is not was given up
where the first of them was refused. -/
theorem setUp_eq (engine : Engine σ κ) (connection : κ) (statements : List String) (state : σ) :
    (∃ after, engine.executeAll connection statements state = (.ok (), after) ∧
        engine.setUp connection statements state = (.ok connection, after)) ∨
      ∃ words after, engine.executeAll connection statements state = (.error words, after) ∧
        engine.setUp connection statements state =
          (.error words, engine.drop connection after) := by
  unfold setUp
  cases engine.executeAll connection statements state with
  | mk result after =>
    cases result with
    | ok _ => exact .inl ⟨after, rfl, rfl⟩
    | error words => exact .inr ⟨words, after, rfl, rfl⟩

end Engine

/-! ## Faults -/

variable (settings : Settings) (state : σ)

theorem ensureParent_eq_noParent_iff (path : Path) :
    (ensureParent system path state).1 = .error .noParent ↔ path.parent? = none := by
  unfold ensureParent
  split
  · next hparent => exact iff_of_true rfl hparent
  · next parent hparent =>
    refine iff_of_false (fun h => ?_) (by simp [hparent])
    cases hresult : system.ensureDirectories parent state with
    | mk result after =>
      rw [hresult] at h
      cases result <;> cases h

/-- Only of a path without a parent it is said that no directory is above its own. -/
theorem attach_eq_noParent_iff :
    (attach system engine settings state).1 = .error .noParent ↔
      settings.validate system state = .ok () ∧ settings.path.parent? = none := by
  have hparent := @ensureParent_eq_noParent_iff σ system state settings.path
  unfold attach
  split
  · next hinvalid => simp [hinvalid]
  · next hvalid =>
    rw [hvalid]
    split
    · next hfault =>
      rw [hfault] at hparent
      simpa using hparent
    · next hmade =>
      rw [hmade] at hparent
      have hparent : settings.path.parent? ≠ none := fun h => by cases hparent.mpr h
      -- What is left is what the engine says of the connection.
      refine iff_of_false (fun h => ?_) fun h => hparent h.2
      split at h
      · cases h
      · next connection connected _ =>
        cases hup : engine.setUp connection settings.setup connected with
        | mk result after =>
          rw [hup] at h
          cases result <;> cases h

/-- Only of a path without a parent it is said that no directory is above its own. -/
theorem openFile_eq_noParent_iff :
    (openFile system engine settings state).1 = .failed .noParent ↔
      settings.validate system state = .ok () ∧ settings.path.parent? = none := by
  rw [← @attach_eq_noParent_iff σ κ system engine]
  unfold openFile
  split
  · next hattach => simp [hattach]
  · next hattach =>
    rw [hattach]
    refine iff_of_false (fun h => ?_) nofun
    split at h <;> cases h

/-! ## Breakdowns -/

/-- An opening breaks down just if all goes well but for the time to wait. -/
theorem openFile_eq_crashed_iff :
    (openFile system engine settings state).1 = .crashed ↔
      ∃ connection after, attach system engine settings state = (.ok connection, after) ∧
        (engine.setBusyTimeout connection settings.busyTimeout.toNat after).1 = .crashed := by
  unfold openFile
  split
  · next hattach => simp [hattach]
  · next connection attached hattach =>
    rw [hattach]
    have hpair : (∃ c after, ((.ok connection : Except Fault κ), attached) = (.ok c, after) ∧
        (engine.setBusyTimeout c settings.busyTimeout.toNat after).1 = .crashed) ↔
        (engine.setBusyTimeout connection settings.busyTimeout.toNat attached).1 = .crashed := by
      constructor
      · rintro ⟨c, after, heq, h⟩
        cases heq
        exact h
      · exact fun h => ⟨connection, attached, rfl, h⟩
    rw [hpair]
    split
    all_goals
      next hset => simp [hset]

/-- An opening ends with a result or with a fault just if the time to wait is not too long, or if
the database is not even connected to. -/
theorem openFile_returns_iff (hengine : engine.TakesTimes) :
    (openFile system engine settings state).1.Returns ↔
      settings.busyTimeout.toNat ≤ Engine.maxBusyTimeout ∨
        ∃ fault, (attach system engine settings state).1 = .error fault := by
  rw [Outcome.returns_iff_ne_crashed, Ne, openFile_eq_crashed_iff]
  simp only [hengine _ settings.busyTimeout.toNat]
  cases hattach : attach system engine settings state with
  | mk result after =>
    cases result with
    | error fault => simp
    | ok connection => simp

end Database

end RecordMapper
