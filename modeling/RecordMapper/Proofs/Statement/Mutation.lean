import RecordMapper.Proofs.Decimal
import RecordMapper.Proofs.Statement.Form

/-!
# Changes of all rows

* `ChangesAllRows`: the texts that change or remove rows and have no condition at their end.
* `Update.changesAllRows_iff`, `Delete.changesAllRows_iff`: which changes and removals have such a
  text.
* `Query.mutationFilter_eq_none`: the query of such a statement has no predicate and is confirmed.
* `Query.unconditional_ofSteps`, `Query.predicate_ofSteps`: what such a query was asked for.
-/

namespace RecordMapper

/-! ## The ends of texts -/

/-- A text that ends with another character, or is empty. -/
def EndsOtherwise (c : Char) (text : String) : Prop :=
  text.toList.getLast? ≠ some c

namespace EndsOtherwise

variable {c : Char} {text text' : String}

theorem append (h : EndsOtherwise c text) (h' : EndsOtherwise c text') :
    EndsOtherwise c (text ++ text') := by
  rw [EndsOtherwise, String.toList_append, List.getLast?_append]
  cases hlast : text'.toList.getLast? with
  | none => exact h
  | some d =>
    intro heq
    exact h' (hlast.trans heq)

theorem append_of_ne_nil (text : String) (hne : text'.toList ≠ []) (h : EndsOtherwise c text') :
    EndsOtherwise c (text ++ text') := by
  rwa [EndsOtherwise, String.toList_append, List.getLast?_append_of_ne_nil _ hne]

theorem of_forall_mem (h : ∀ d ∈ text.toList, d ≠ c) : EndsOtherwise c text := by
  intro hlast
  exact h c (List.mem_of_getLast? hlast) rfl

theorem intercalate {separator : String} (hseparator : EndsOtherwise c separator)
    {parts : List String} (h : ∀ part ∈ parts, EndsOtherwise c part) :
    EndsOtherwise c (separator.intercalate parts) := by
  induction parts with
  | nil =>
    rw [String.intercalate_nil]
    nofun
  | cons part rest ih =>
    obtain ⟨hpart, hrest⟩ := List.forall_mem_cons.mp h
    cases rest with
    | nil => rwa [String.intercalate_singleton]
    | cons =>
      rw [String.intercalate_cons_cons]
      exact (hpart.append hseparator).append (ih hrest)

end EndsOtherwise

theorem Condition.getLast?_render (dialect : Dialect) (condition : Condition) :
    (condition.render dialect).toList.getLast? = some ')' := by
  cases condition with
  | compare | logic =>
    rw [render, String.toList_append]
    exact List.getLast?_append_of_ne_nil _ (List.cons_ne_nil _ _)

theorem Condition.getLast?_append_clause (dialect : Dialect) (front : String)
    (condition : Condition) :
    (front ++ clause dialect (some condition)).toList.getLast? = some ')' := by
  have hlast := condition.getLast?_render dialect
  rw [clause, ← String.append_assoc, String.toList_append, List.getLast?_append, hlast]
  rfl

/-- The condition that a column has a number. -/
theorem Condition.clause_number (dialect : Dialect) (name : String) (n : Nat) :
    clause dialect (some (.compare name .equal (.integer n))) =
      " WHERE (`" ++ name ++ "` = " ++ Decimal.ofNat n ++ ")" := by
  rw [← String.toList_inj]
  simp [clause, render, Dialect.identifier, Dialect.literal, Operator.token, Decimal.ofInt]

theorem Dialect.endsOtherwise_literal (dialect : Dialect) (literal : Literal) :
    EndsOtherwise ')' (dialect.literal literal) := by
  cases literal with
  | null => exact (by decide : "NULL".toList.getLast? ≠ some ')')
  | integer number =>
    apply EndsOtherwise.of_forall_mem
    intro c hc
    rcases Decimal.mem_ofInt hc with rfl | hdigit
    · decide
    · rintro rfl
      exact absurd hdigit (by decide)
  | text content =>
    rw [EndsOtherwise, Dialect.literal, quoteText, String.toList_ofList, Text.QuoteRule.write]
    rw [List.getLast?_append_of_ne_nil _ (List.cons_ne_nil _ _)]
    cases dialect <;> decide

/-! ## Statements without a condition -/

/-- A text that changes or removes rows and has no condition at its end. -/
structure ChangesAllRows (dialect : Dialect) (sql : String) : Prop where
  verb : (∃ rest, sql = "UPDATE " ++ rest) ∨ ∃ rest, sql = "DELETE " ++ rest
  unrestricted : ∀ front condition, sql ≠ front ++ Condition.clause dialect (some condition)

theorem ChangesAllRows.of_endsOtherwise {dialect : Dialect} {sql : String}
    (hverb : (∃ rest, sql = "UPDATE " ++ rest) ∨ ∃ rest, sql = "DELETE " ++ rest)
    (h : EndsOtherwise ')' sql) : ChangesAllRows dialect sql := by
  refine ⟨hverb, ?_⟩
  rintro front condition rfl
  exact h (Condition.getLast?_append_clause dialect front condition)

theorem not_changesAllRows_of_head {dialect : Dialect} {sql : String} {c : Char}
    (h : sql.toList.head? = some c) (hupdate : c ≠ 'U') (hdelete : c ≠ 'D') :
    ¬ ChangesAllRows dialect sql := by
  rintro ⟨⟨rest, rfl⟩ | ⟨rest, rfl⟩, -⟩
  · rw [String.toList_append] at h
    exact hupdate (Option.some.inj h).symm
  · rw [String.toList_append] at h
    exact hdelete (Option.some.inj h).symm

theorem Insert.not_changesAllRows (dialect : Dialect) (insert : Insert) :
    ¬ ChangesAllRows dialect (insert.render dialect) := by
  refine not_changesAllRows_of_head (c := 'I') ?_ (by decide) (by decide)
  rw [render, String.append_assoc, String.append_assoc, String.toList_append]
  rfl

theorem Select.not_changesAllRows (dialect : Dialect) (select : Select) :
    ¬ ChangesAllRows dialect (select.render dialect) := by
  refine not_changesAllRows_of_head (c := 'S') ?_ (by decide) (by decide)
  simp only [render, String.append_assoc]
  rw [String.toList_append]
  rfl

theorem Update.endsOtherwise_of_none (dialect : Dialect) {update : Update}
    (h : update.condition = none) : EndsOtherwise ')' (update.render dialect) := by
  have hentries : EndsOtherwise ')' (", ".intercalate
      (update.entries.map fun entry =>
        Dialect.identifier entry.name ++ " = " ++ dialect.literal entry.literal)) := by
    apply EndsOtherwise.intercalate (by decide : ", ".toList.getLast? ≠ some ')')
    intro part hpart
    obtain ⟨entry, -, rfl⟩ := List.mem_map.mp hpart
    have hequals : EndsOtherwise ')' (Dialect.identifier entry.name ++ " = ") :=
      EndsOtherwise.append_of_ne_nil _ (List.cons_ne_nil _ _)
        (by decide : " = ".toList.getLast? ≠ some ')')
    exact hequals.append (dialect.endsOtherwise_literal _)
  have hset : EndsOtherwise ')' ("UPDATE " ++ Dialect.identifier update.table ++ " SET ") :=
    EndsOtherwise.append_of_ne_nil _ (List.cons_ne_nil _ _)
      (by decide : " SET ".toList.getLast? ≠ some ')')
  rw [render, h]
  exact (hset.append hentries).append nofun

theorem Delete.endsOtherwise_of_none (dialect : Dialect) {delete : Delete}
    (h : delete.condition = none) : EndsOtherwise ')' (delete.render dialect) := by
  have htable : EndsOtherwise ')' ("DELETE FROM " ++ Dialect.identifier delete.table) := by
    rw [Dialect.identifier, ← String.append_assoc]
    exact EndsOtherwise.append_of_ne_nil _ (List.cons_ne_nil _ _)
      (by decide : "`".toList.getLast? ≠ some ')')
  rw [render, h]
  exact htable.append nofun

/-- A change is the change of all rows, with a condition behind it. -/
theorem Update.render_eq_append (dialect : Dialect) (update : Update) :
    update.render dialect =
      { update with condition := none }.render dialect ++
        Condition.clause dialect update.condition := by
  rw [render, render, Condition.clause, String.append_empty]

theorem Delete.render_eq_append (dialect : Dialect) (delete : Delete) :
    delete.render dialect =
      { delete with condition := none }.render dialect ++
        Condition.clause dialect delete.condition := by
  rw [render, render, Condition.clause, String.append_empty]

theorem Update.changesAllRows_iff (dialect : Dialect) (update : Update) :
    ChangesAllRows dialect (update.render dialect) ↔ update.condition = none := by
  constructor
  · intro h
    cases hcondition : update.condition with
    | none => rfl
    | some condition =>
      rw [render, hcondition] at h
      exact absurd rfl (h.unrestricted _ condition)
  · intro h
    refine .of_endsOtherwise (.inl ?_) (update.endsOtherwise_of_none dialect h)
    simp only [render, String.append_assoc]
    exact ⟨_, rfl⟩

theorem Delete.changesAllRows_iff (dialect : Dialect) (delete : Delete) :
    ChangesAllRows dialect (delete.render dialect) ↔ delete.condition = none := by
  constructor
  · intro h
    cases hcondition : delete.condition with
    | none => rfl
    | some condition =>
      rw [render, hcondition] at h
      exact absurd rfl (h.unrestricted _ condition)
  · intro h
    refine .of_endsOtherwise (.inr ?_) (delete.endsOtherwise_of_none dialect h)
    refine ⟨"FROM " ++ Dialect.identifier delete.table ++
      Condition.clause dialect delete.condition, ?_⟩
    rw [render, ← String.append_assoc, ← String.append_assoc]
    rfl

/-! ## Queries that let all rows be changed -/

namespace Query

theorem mutationFilter_eq_none {schema : Schema} {mutation : Mutation} {query : Query}
    (h : query.mutationFilter schema mutation = .ok none) :
    query.predicate = none ∧ query.unconditional = true := by
  rw [mutationFilter] at h
  split at h
  · next hintended =>
    rw [condition] at h
    split at h
    · obtain ⟨_, -, hsome⟩ := map_eq_ok.mp h
      cases hsome
    · next hnone =>
      rw [hnone, Option.isSome_none, Bool.false_or] at hintended
      exact ⟨hnone, hintended⟩
  · cases h

theorem unconditional_foldl (steps : List Step) (query : Query) :
    (steps.foldl apply query).unconditional = true ↔
      query.unconditional = true ∨ .confirm ∈ steps := by
  induction steps generalizing query with
  | nil => simp
  | cons step rest ih =>
    rw [List.foldl_cons, ih]
    cases step <;> simp [apply]

theorem predicate_foldl (steps : List Step) (query : Query) :
    (steps.foldl apply query).predicate = none ↔
      query.predicate = none ∧ ∀ predicate, .filter predicate ∉ steps := by
  induction steps generalizing query with
  | nil => simp
  | cons step rest ih =>
    rw [List.foldl_cons, ih]
    cases step with
    | filter predicate =>
      constructor
      · rintro ⟨⟨⟩, -⟩
      · rintro ⟨-, hnone⟩
        exact absurd List.mem_cons_self (hnone predicate)
    | _ => simp [apply]

theorem unconditional_ofSteps (steps : List Step) :
    (ofSteps steps).unconditional = true ↔ .confirm ∈ steps := by
  rw [ofSteps, unconditional_foldl]
  simp

theorem predicate_ofSteps (steps : List Step) :
    (ofSteps steps).predicate = none ↔ ∀ predicate, .filter predicate ∉ steps := by
  rw [ofSteps, predicate_foldl]
  simp

end Query

end RecordMapper
