import Mathlib.Algebra.GroupWithZero.Nat
import Mathlib.Data.List.Induction
import RecordMapper.Statement.Select
import RecordMapper.Statement.Write

/-!
# Queries that are built step by step

* `Query.Gathers`: what a query holds after some steps, each part said by the steps that are about
  it.
* `Query.Gathers.apply`, `Query.gathers_ofSteps`: one more step, and all steps of a query.
* `Predicate.leaves_conjunction`, `Predicate.eval_conjunction`: the condition that several
  conditions add up to.
* `Query.SameRequests`: steps that may differ only in how requests of several kinds are mixed, and
  in names and numbers that make no difference.
* `Query.determined_by_requests`: such steps lead to the same query.
-/

namespace RecordMapper

/-! ## Conditions that add up -/

namespace Predicate

/-- What several conditions add up to under AND, from left to right; nothing if there are none. -/
def conjunction : List Predicate → Option Predicate
  | [] => none
  | first :: rest => some (rest.foldl (.logic .and) first)

theorem conjunction_append_singleton (conditions : List Predicate) (next : Predicate) :
    conjunction (conditions ++ [next]) = some (.conjoin (conjunction conditions) next) := by
  cases conditions with
  | nil => rfl
  | cons first rest =>
    rw [List.cons_append, conjunction, List.foldl_append]
    rfl

theorem conjunction_eq_none_iff (conditions : List Predicate) :
    conjunction conditions = none ↔ conditions = [] := by
  cases conditions <;> simp [conjunction]

theorem leaves_foldl (first : Predicate) (rest : List Predicate) :
    (rest.foldl (.logic .and) first).leaves = first.leaves ++ rest.flatMap leaves := by
  induction rest generalizing first with
  | nil => simp
  | cons next rest ih =>
    rw [List.foldl_cons, ih, leaves, List.flatMap_cons, List.append_assoc]

theorem eval_foldl (holds : Comparison → Bool) (first : Predicate) (rest : List Predicate) :
    (rest.foldl (.logic .and) first).eval holds = true ↔
      first.eval holds = true ∧ ∀ next ∈ rest, next.eval holds = true := by
  induction rest generalizing first with
  | nil => simp
  | cons next rest ih => simp [ih, eval, and_assoc]

/-- Conditions that add up have the comparisons of each of them, from left to right. -/
theorem leaves_conjunction (conditions : List Predicate) :
    (conjunction conditions).elim [] leaves = conditions.flatMap leaves := by
  cases conditions with
  | nil => rfl
  | cons first rest =>
    rw [List.flatMap_cons]
    exact leaves_foldl first rest

theorem leafCount_conjunction (conditions : List Predicate) :
    (conjunction conditions).elim 0 leafCount = (conditions.flatMap leaves).length := by
  rw [← leaves_conjunction]
  cases conjunction conditions with
  | none => rfl
  | some predicate => exact predicate.length_leaves.symm

/-- Conditions that add up hold exactly if each of them does. -/
theorem eval_conjunction (holds : Comparison → Bool) (conditions : List Predicate) :
    (conjunction conditions).all (·.eval holds) = true ↔
      ∀ condition ∈ conditions, condition.eval holds = true := by
  cases conditions with
  | nil => simp [conjunction]
  | cons first rest =>
    rw [List.forall_mem_cons]
    exact eval_foldl holds first rest

end Predicate

namespace Query

/-! ## What steps ask for -/

namespace Step

/-- The condition of a step, if it is about one. -/
def filter? : Step → Option Predicate
  | .filter predicate => some predicate
  | _ => none

def entry? : Step → Option OrderEntry
  | .orderBy entry => some entry
  | _ => none

def limit? : Step → Option UInt64
  | .limit count => some count
  | _ => none

def offset? : Step → Option UInt64
  | .offset count => some count
  | _ => none

/-- The columns that a step asks for. -/
def columns : Step → List String
  | .select columns => columns
  | _ => []

/-- The relations that a step asks for. -/
def relations : Step → List String
  | .resolve relations => relations
  | _ => []

end Step

/-- What a query holds after some steps: the conditions under AND and the entries in the order of
the steps, the last limit and the last offset, the columns and the relations of all steps, and
whether there was a confirmation. -/
structure Gathers (steps : List Step) (query : Query) : Prop where
  predicate : query.predicate = Predicate.conjunction (steps.filterMap Step.filter?)
  order : query.order = steps.filterMap Step.entry?
  limit : query.limit = (steps.filterMap Step.limit?).getLast?
  offset : query.offset = (steps.filterMap Step.offset?).getLast?
  columns : ∀ name, name ∈ query.columns ↔ name ∈ steps.flatMap Step.columns
  relations : ∀ name, name ∈ query.relations ↔ name ∈ steps.flatMap Step.relations
  unconditional : query.unconditional = true ↔ .confirm ∈ steps

namespace Gathers

variable {steps : List Step} {query : Query}

theorem nil : Gathers [] {} where
  predicate := rfl
  order := rfl
  limit := rfl
  offset := rfl
  columns _ := by simp
  relations _ := by simp
  unconditional := by simp

/-- A step changes the part of the query that it is about, and no other. -/
theorem apply (h : Gathers steps query) (step : Step) :
    Gathers (steps ++ [step]) (query.apply step) where
  predicate := by
    have hbefore := h.predicate
    rw [List.filterMap_append]
    cases step with
    | filter predicate =>
      change some (Predicate.conjoin query.predicate predicate) = _
      rw [hbefore]
      exact (Predicate.conjunction_append_singleton _ predicate).symm
    | _ => simpa [Query.apply, Step.filter?, List.filterMap_cons] using hbefore
  order := by
    have hbefore := h.order
    cases step <;> simp [Query.apply, Step.entry?, List.filterMap_cons, hbefore]
  limit := by
    have hbefore := h.limit
    rw [List.filterMap_append, List.getLast?_append, ← hbefore]
    cases step <;> simp [Query.apply, Step.limit?, List.filterMap_cons]
  offset := by
    have hbefore := h.offset
    rw [List.filterMap_append, List.getLast?_append, ← hbefore]
    cases step <;> simp [Query.apply, Step.offset?, List.filterMap_cons]
  columns name := by
    have hbefore := h.columns name
    rw [List.flatMap_append, List.mem_append, ← hbefore]
    cases step <;> simp [Query.apply, Step.columns, or_comm]
  relations name := by
    have hbefore := h.relations name
    rw [List.flatMap_append, List.mem_append, ← hbefore]
    cases step <;> simp [Query.apply, Step.relations, or_comm]
  unconditional := by
    have hbefore := h.unconditional
    rw [List.mem_append, ← hbefore]
    cases step <;> simp [Query.apply]

end Gathers

theorem gathers_ofSteps (steps : List Step) : Gathers steps (ofSteps steps) := by
  induction steps using List.reverseRecOn with
  | nil => exact Gathers.nil
  | append_singleton before step ih =>
    rw [ofSteps, List.foldl_append]
    exact ih.apply step

/-! ## Steps that lead to the same query -/

/-- Steps that agree on the conditions and the entries, in their order, on the last limit and the
last offset, on the names of the columns and of the relations, and on whether there is a
confirmation. -/
structure SameRequests (steps steps' : List Step) : Prop where
  filters : steps.filterMap Step.filter? = steps'.filterMap Step.filter?
  entries : steps.filterMap Step.entry? = steps'.filterMap Step.entry?
  limit : (steps.filterMap Step.limit?).getLast? = (steps'.filterMap Step.limit?).getLast?
  offset : (steps.filterMap Step.offset?).getLast? = (steps'.filterMap Step.offset?).getLast?
  columns : ∀ name, name ∈ steps.flatMap Step.columns ↔ name ∈ steps'.flatMap Step.columns
  relations : ∀ name, name ∈ steps.flatMap Step.relations ↔ name ∈ steps'.flatMap Step.relations
  confirmed : .confirm ∈ steps ↔ .confirm ∈ steps'

theorem Gathers.unique {steps steps' : List Step} {query query' : Query} (h : Gathers steps query)
    (h' : Gathers steps' query') (hsame : SameRequests steps steps') : query = query' := by
  have hpredicate : query.predicate = query'.predicate := by
    rw [h.predicate, h'.predicate, hsame.filters]
  have horder : query.order = query'.order := by rw [h.order, h'.order, hsame.entries]
  have hlimit : query.limit = query'.limit := by rw [h.limit, h'.limit, hsame.limit]
  have hoffset : query.offset = query'.offset := by rw [h.offset, h'.offset, hsame.offset]
  have hcolumns : query.columns = query'.columns := NameSet.ext_of_mem fun name => by
    rw [h.columns, h'.columns, hsame.columns]
  have hrelations : query.relations = query'.relations := NameSet.ext_of_mem fun name => by
    rw [h.relations, h'.relations, hsame.relations]
  have hunconditional : query.unconditional = query'.unconditional := by
    rw [Bool.eq_iff_iff, h.unconditional, h'.unconditional, hsame.confirmed]
  cases query
  cases query'
  congr

/-- Queries from which every dialect has the same texts, or the same faults, whatever they are asked
of. -/
structure CompiledAlike (query query' : Query) : Prop where
  select : ∀ (dialect : Dialect) (schema : Schema),
    (·.render dialect) <$> Select.ofQuery schema query =
      (·.render dialect) <$> Select.ofQuery schema query'
  update : ∀ (dialect : Dialect) (record : Record),
    (·.render dialect) <$> Update.ofRecord record query =
      (·.render dialect) <$> Update.ofRecord record query'
  delete : ∀ (dialect : Dialect) (schema : Schema),
    (·.render dialect) <$> Delete.ofQuery schema query =
      (·.render dialect) <$> Delete.ofQuery schema query'

theorem CompiledAlike.refl (query : Query) : CompiledAlike query query where
  select _ _ := rfl
  update _ _ := rfl
  delete _ _ := rfl

/-- Steps of different kinds commute: a query is determined by its conditions and entries in their
order, the last limit and offset, the sets of names, and whether there was a confirmation. Its
predicate is what its conditions add up to from left to right, with all their comparisons. -/
theorem determined_by_requests (steps : List Step) :
    (∀ steps', SameRequests steps steps' →
      ofSteps steps = ofSteps steps' ∧ CompiledAlike (ofSteps steps) (ofSteps steps')) ∧
    Gathers steps (ofSteps steps) ∧
    ((ofSteps steps).predicate = none ↔ steps.filterMap Step.filter? = []) ∧
    (ofSteps steps).predicate.elim 0 Predicate.leafCount =
      ((steps.filterMap Step.filter?).map Predicate.leafCount).sum ∧
    ((ofSteps steps).predicate.elim [] Predicate.leaves =
        (steps.filterMap Step.filter?).flatMap Predicate.leaves ∧
      (ofSteps steps).predicate.elim 0 Predicate.leafCount =
        ((steps.filterMap Step.filter?).flatMap Predicate.leaves).length) ∧
    ∀ holds, (ofSteps steps).predicate.all (·.eval holds) = true ↔
      ∀ condition ∈ steps.filterMap Step.filter?, condition.eval holds = true := by
  have hgathers := gathers_ofSteps steps
  refine ⟨fun steps' hsame => ?_, hgathers, ?_⟩
  · have hquery := hgathers.unique (gathers_ofSteps steps') hsame
    exact ⟨hquery, hquery ▸ CompiledAlike.refl _⟩
  · rw [hgathers.predicate]
    have hcount := Predicate.leafCount_conjunction (steps.filterMap Step.filter?)
    have hsum : (steps.filterMap Step.filter?).map Predicate.leafCount =
        (steps.filterMap Step.filter?).map fun condition => condition.leaves.length :=
      List.map_congr_left fun condition _ => condition.length_leaves.symm
    refine ⟨Predicate.conjunction_eq_none_iff _, ?_, ⟨Predicate.leaves_conjunction _, hcount⟩,
      fun holds => Predicate.eval_conjunction holds _⟩
    rw [hcount, hsum, List.length_flatMap]

/-- Steps of every kind, with a limit, a column and a relation more than needed. -/
def mixedSteps : List Step :=
  [.limit 5, .filter (.compare ⟨"age", ">=", .int32 18⟩), .select ["id"], .resolve ["profile"],
    .orderBy ⟨"age", .descending⟩,
    .filter (.logic .or (.compare ⟨"id", "<", .uint32 7⟩) (.compare ⟨"id", ">", .uint32 9⟩)),
    .offset 2, .orderBy ⟨"id", .ascending⟩, .select ["age", "id"], .limit 10, .confirm,
    .resolve ["profile"]]

/-- The same requests, kind by kind. -/
def sortedSteps : List Step :=
  [.filter (.compare ⟨"age", ">=", .int32 18⟩),
    .filter (.logic .or (.compare ⟨"id", "<", .uint32 7⟩) (.compare ⟨"id", ">", .uint32 9⟩)),
    .orderBy ⟨"age", .descending⟩, .orderBy ⟨"id", .ascending⟩, .limit 10, .offset 2, .confirm,
    .select ["age"], .select ["id"], .resolve ["profile"]]

theorem determined_by_requests_sorted :
    SameRequests mixedSteps sortedSteps ∧ ofSteps mixedSteps = ofSteps sortedSteps ∧
      CompiledAlike (ofSteps mixedSteps) (ofSteps sortedSteps) := by
  have hsame : SameRequests mixedSteps sortedSteps := by
    refine ⟨rfl, rfl, rfl, rfl, fun name => ?_, fun name => ?_, by decide⟩
    · change name ∈ ["id", "age", "id"] ↔ name ∈ ["age", "id"]
      simp only [List.mem_cons, List.not_mem_nil, or_false]
      constructor
      · rintro (h | h | h)
        exacts [.inr h, .inl h, .inr h]
      · rintro (h | h)
        exacts [.inr (.inl h), .inl h]
    · change name ∈ ["profile", "profile"] ↔ name ∈ ["profile"]
      simp
  exact ⟨hsame, (determined_by_requests mixedSteps).1 sortedSteps hsame⟩

end Query

end RecordMapper
