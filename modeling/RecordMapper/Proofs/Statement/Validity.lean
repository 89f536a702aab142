import RecordMapper.Proofs.NameSet
import RecordMapper.Proofs.Registry
import RecordMapper.Proofs.Statement.Form

/-!
# Queries that can be read

* `Mention`: a name or an operator that a query holds, and that has to be known.
* `Query.mentions`: what a query mentions, in the order in which it is looked at.
* `Select.discard_ofQuery`: a query is checked as its mentions are, one after the other.
* `Predicate.Valid`, `Query.Valid`: all that is mentioned is known.
* `Select.ofQuery_exact`: a query can be read exactly if it is valid, and otherwise the fault is
  that of the first mention that is not known.
-/

namespace RecordMapper

/-! ## Mentions -/

inductive Mention where
  | column (name : String)
  | relation (key : String)
  | operator (token : String)
deriving DecidableEq, Repr

namespace Mention

/-- Columns and relations are known if the schema declares them. -/
def IsKnown (schema : Schema) : Mention → Prop
  | .column name => ∃ column ∈ schema.columns, column.name = name
  | .relation key => ∃ relation ∈ schema.relations, relation.key = key
  | .operator token => token ∈ ["=", "!=", ">", "<", ">=", "<="]

instance (schema : Schema) : (mention : Mention) → Decidable (mention.IsKnown schema)
  | .column name => inferInstanceAs (Decidable (∃ column ∈ schema.columns, column.name = name))
  | .relation key => inferInstanceAs (Decidable (∃ relation ∈ schema.relations, relation.key = key))
  | .operator token => inferInstanceAs (Decidable (token ∈ ["=", "!=", ">", "<", ">=", "<="]))

/-- What is wrong if it is not known. -/
def fault (schema : Schema) : Mention → Fault
  | .column name => .unknownColumn schema.table name
  | .relation key => .unknownRelation schema.table key
  | .operator token => .unknownOperator token

def check (schema : Schema) : Mention → Except Fault Unit
  | .column name => discard (schema.requireColumn name)
  | .relation key => discard (schema.requireRelation key)
  | .operator token => discard (Operator.ofToken token)

end Mention

/-- The first of several mentions that is not known. -/
def FirstUnknown (schema : Schema) (mentions : List Mention) (mention : Mention) : Prop :=
  ∃ before after, mentions = before ++ mention :: after ∧
    (∀ known ∈ before, known.IsKnown schema) ∧ ¬ mention.IsKnown schema

namespace Mention

variable {schema : Schema} {mention : Mention}

theorem kind_fault (schema : Schema) (mention : Mention) :
    (mention.fault schema).kind = .invalidArgument := by
  cases mention <;> rfl

theorem isKnown_operator_iff {token : String} :
    (Mention.operator token).IsKnown schema ↔ ∃ operator : Operator, operator.token = token := by
  constructor
  · intro h
    simp only [IsKnown, List.mem_cons, List.not_mem_nil, or_false] at h
    rcases h with rfl | rfl | rfl | rfl | rfl | rfl
    exacts [⟨.equal, rfl⟩, ⟨.notEqual, rfl⟩, ⟨.greater, rfl⟩, ⟨.less, rfl⟩, ⟨.greaterEqual, rfl⟩,
      ⟨.lessEqual, rfl⟩]
  · rintro ⟨operator, rfl⟩
    cases operator <;> simp [IsKnown, Operator.token]

theorem check_eq_ok : mention.check schema = .ok () ↔ mention.IsKnown schema := by
  cases mention with
  | column name =>
    simp only [check, discard_eq_ok, Schema.requireColumn_eq_ok, ← Option.isSome_iff_exists,
      Schema.column?, List.find?_isSome, beq_iff_eq, IsKnown]
  | relation key =>
    simp only [check, discard_eq_ok, Schema.requireRelation_eq_ok, ← Option.isSome_iff_exists,
      Schema.relation?, List.find?_isSome, beq_iff_eq, IsKnown]
  | operator token =>
    simp only [check, discard_eq_ok, Operator.ofToken_eq_ok, isKnown_operator_iff]

theorem fails_check (schema : Schema) (mention : Mention) :
    Fails (mention.check schema) (· = mention.fault schema) := by
  cases mention with
  | column name =>
    refine fails_map ?_
    rw [Schema.requireColumn]
    split
    · exact fails_ok
    · exact fails_error rfl
  | relation key =>
    refine fails_map ?_
    rw [Schema.requireRelation]
    split
    · exact fails_ok
    · exact fails_error rfl
  | operator token =>
    refine fails_map ?_
    rw [Operator.ofToken]
    split
    · exact fails_ok
    · exact fails_error rfl

theorem check_eq_error {fault : Fault} :
    mention.check schema = .error fault ↔
      ¬ mention.IsKnown schema ∧ fault = mention.fault schema := by
  constructor
  · intro h
    refine ⟨fun hknown => ?_, fails_check schema mention fault h⟩
    rw [check_eq_ok.mpr hknown] at h
    cases h
  · rintro ⟨hunknown, rfl⟩
    cases hcheck : mention.check schema with
    | ok => exact absurd (check_eq_ok.mp hcheck) hunknown
    | error fault => rw [fails_check schema mention fault hcheck]

theorem forM_check_eq_ok {mentions : List Mention} :
    mentions.forM (check schema) = .ok () ↔ ∀ mention ∈ mentions, mention.IsKnown schema := by
  rw [forM_eq_ok]
  exact forall₂_congr fun _ _ => check_eq_ok

theorem forM_check_eq_error {mentions : List Mention} {fault : Fault} :
    mentions.forM (check schema) = .error fault ↔
      ∃ mention, FirstUnknown schema mentions mention ∧ fault = mention.fault schema := by
  rw [forM_eq_error]
  simp only [check_eq_ok, check_eq_error, FirstUnknown]
  constructor
  · rintro ⟨before, mention, after, hmentions, hbefore, hunknown, hfault⟩
    exact ⟨mention, ⟨before, after, hmentions, hbefore, hunknown⟩, hfault⟩
  · rintro ⟨mention, ⟨before, after, hmentions, hbefore, hunknown⟩, hfault⟩
    exact ⟨before, mention, after, hmentions, hbefore, hunknown, hfault⟩

end Mention

/-! ## What a query mentions -/

/-- A comparison mentions its column before its operator. -/
def Comparison.mentions (comparison : Comparison) : List Mention :=
  [.column comparison.column, .operator comparison.operator]

def Predicate.mentions (predicate : Predicate) : List Mention :=
  predicate.leaves.flatMap Comparison.mentions

/-- What a query mentions: the columns to read, the relations to resolve, the comparisons from left
to right, the columns to order by. -/
def Query.mentions (query : Query) : List Mention :=
  query.columns.names.map .column ++ (query.relations.names.map .relation ++
    (query.predicate.elim [] Predicate.mentions ++ query.order.map (.column ·.column)))

namespace Predicate

/-- Each comparison is one of a declared column by an operator of a store. -/
def Valid (schema : Schema) (predicate : Predicate) : Prop :=
  ∀ comparison ∈ predicate.leaves, (∃ column ∈ schema.columns, column.name = comparison.column) ∧
    comparison.operator ∈ ["=", "!=", ">", "<", ">=", "<="]

theorem valid_iff {schema : Schema} {predicate : Predicate} :
    predicate.Valid schema ↔ ∀ mention ∈ predicate.mentions, mention.IsKnown schema := by
  simp only [Valid, mentions, Comparison.mentions, List.forall_mem_flatMap, List.forall_mem_cons,
    List.not_mem_nil, IsEmpty.forall_iff, implies_true, and_true, Mention.IsKnown]

theorem discard_check (schema : Schema) (predicate : Predicate) :
    discard (predicate.check schema) = predicate.mentions.forM (Mention.check schema) := by
  induction predicate with
  | compare comparison =>
    rw [mentions, leaves, List.flatMap_singleton, Comparison.mentions]
    simp only [List.forM_eq_forM, List.forM_cons, List.forM_nil, Mention.check, check]
    cases schema.requireColumn comparison.column with
    | error fault => rfl
    | ok column => cases Operator.ofToken comparison.operator <;> rfl
  | logic connective left right ihl ihr =>
    rw [mentions, leaves, List.flatMap_append, List.forM_eq_forM, List.forM_append, check]
    rw [mentions, List.forM_eq_forM] at ihl ihr
    rw [← ihl, ← ihr]
    cases left.check schema with
    | error fault => rfl
    | ok condition => cases right.check schema <;> rfl

theorem check_ok_iff {schema : Schema} {predicate : Predicate} :
    (∃ condition, predicate.check schema = .ok condition) ↔ predicate.Valid schema := by
  rw [← discard_eq_ok, discard_check, Mention.forM_check_eq_ok, valid_iff]

end Predicate

namespace Query

variable {schema : Schema} {query : Query}

theorem discard_condition (schema : Schema) (query : Query) :
    discard (query.condition schema) =
      (query.predicate.elim [] Predicate.mentions).forM (Mention.check schema) := by
  rw [condition]
  cases query.predicate with
  | none => rfl
  | some predicate =>
    rw [Option.elim_some, ← Predicate.discard_check]
    dsimp only
    cases predicate.check schema <;> rfl

/-- Whatever a query reads, resolves, compares and orders by is declared, and it compares by the
operators of a store. -/
structure Valid (schema : Schema) (query : Query) : Prop where
  columns : ∀ name ∈ query.columns, ∃ column ∈ schema.columns, column.name = name
  relations : ∀ key ∈ query.relations, ∃ relation ∈ schema.relations, relation.key = key
  predicate : ∀ predicate, query.predicate = some predicate → predicate.Valid schema
  order : ∀ entry ∈ query.order, ∃ column ∈ schema.columns, column.name = entry.column

theorem forall_mentions_iff {predicate : Option Predicate} :
    (∀ mention ∈ predicate.elim [] Predicate.mentions, mention.IsKnown schema) ↔
      ∀ found, predicate = some found → found.Valid schema := by
  cases predicate with
  | none => exact ⟨fun _ => nofun, fun _ => nofun⟩
  | some predicate =>
    rw [Option.elim_some, ← Predicate.valid_iff]
    exact ⟨fun h _ hfound => Option.some.inj hfound ▸ h, fun h => h predicate rfl⟩

theorem valid_iff : query.Valid schema ↔ ∀ mention ∈ query.mentions, mention.IsKnown schema := by
  simp only [mentions, List.forall_mem_append, List.forall_mem_map, forall_mentions_iff]
  exact ⟨fun h => ⟨h.columns, h.relations, h.predicate, h.order⟩,
    fun ⟨hcolumns, hrelations, hpredicate, horder⟩ =>
      ⟨hcolumns, hrelations, hpredicate, horder⟩⟩

end Query

namespace Select

variable {schema : Schema} {query : Query}

/-- A query is checked as what it mentions is, one after the other. -/
theorem discard_ofQuery (schema : Schema) (query : Query) :
    discard (ofQuery schema query) = query.mentions.forM (Mention.check schema) := by
  have hcondition := query.discard_condition schema
  rw [Query.mentions]
  simp only [List.forM_eq_forM, List.forM_append, List.forM_map] at hcondition ⊢
  rw [← hcondition, ofQuery]
  simp only [List.forM_eq_forM, Mention.check, discard_bind, discard_bind_const, discard_pure,
    bind_pure_unit]

theorem ofQuery_ok_iff : (∃ select, ofQuery schema query = .ok select) ↔ query.Valid schema := by
  rw [← discard_eq_ok, discard_ofQuery, Mention.forM_check_eq_ok, Query.valid_iff]

theorem ofQuery_eq_error {fault : Fault} : ofQuery schema query = .error fault ↔
    ∃ mention, FirstUnknown schema query.mentions mention ∧ fault = mention.fault schema := by
  have hdiscard : discard (ofQuery schema query) = .error fault ↔
      ofQuery schema query = .error fault := map_eq_error
  rw [← hdiscard, discard_ofQuery, Mention.forM_check_eq_error]

/-- A query can be read, in either dialect, exactly if it is valid. Otherwise the argument is
invalid, and the fault is that of the first mention that is not known, where the columns to read and
the relations to resolve are in the order of their bytes. In a table that was validated, no query
that can be read mentions the column of instance keys. -/
theorem ofQuery_exact (schema : Schema) (query : Query) (dialect : Dialect) :
    ((∃ sql, render dialect <$> ofQuery schema query = .ok sql) ↔ query.Valid schema) ∧
    (∀ fault, render dialect <$> ofQuery schema query = .error fault ↔
      ∃ mention, FirstUnknown schema query.mentions mention ∧ fault = mention.fault schema) ∧
    (∀ fault, render dialect <$> ofQuery schema query = .error fault →
      fault.kind = .invalidArgument) ∧
    (query.columns.names.Pairwise (Text.utf8 · < Text.utf8 ·) ∧
      query.relations.names.Pairwise (Text.utf8 · < Text.utf8 ·)) ∧
    ∀ catalogue : Catalogue, schema ∈ catalogue.schemas → query.Valid schema →
      .column instanceKeyColumn ∉ query.mentions := by
  have hfault : ∀ fault, render dialect <$> ofQuery schema query = .error fault ↔
      ∃ mention, FirstUnknown schema query.mentions mention ∧ fault = mention.fault schema :=
    fun fault => map_eq_error.trans ofQuery_eq_error
  refine ⟨exists_map_eq_ok.trans ofQuery_ok_iff, hfault, fun fault h => ?_,
    ⟨query.columns.pairwise_utf8, query.relations.pairwise_utf8⟩,
    fun catalogue hschema hvalid hmention => ?_⟩
  · obtain ⟨mention, -, rfl⟩ := (hfault fault).mp h
    exact mention.kind_fault schema
  · -- the name is reserved, so that no column is declared by it
    obtain ⟨column, hcolumn, hname⟩ := Query.valid_iff.mp hvalid _ hmention
    exact (catalogue.consistent.each schema hschema).column_ne_key hcolumn hname

/-- Of two columns of a person that are not declared, the one with the smaller bytes is the fault,
before the relation, the operator and the order that are not known either. -/
theorem ofQuery_exact_persons :
    let mistaken := Query.ofSteps [.orderBy ⟨"height", .descending⟩, .resolve ["boss"],
      .filter (.compare ⟨"age", "~", .int32 7⟩), .select ["zone", "zip", "age"]]
    let sound := Query.ofSteps [.select ["age"], .resolve ["pupil"],
      .filter (.logic .or (.compare ⟨"age", "<", .int32 7⟩) (.compare ⟨"name", "!=", .text "x"⟩))]
    FirstUnknown Registry.persons mistaken.mentions (.column "zip") ∧
      ofQuery Registry.persons mistaken = .error (.unknownColumn "person" "zip") ∧
      Registry.persons ∈ Registry.population.schemas ∧ sound.Valid Registry.persons ∧
      .column instanceKeyColumn ∉ sound.mentions := by
  intro mistaken sound
  have hfirst : FirstUnknown Registry.persons mistaken.mentions (.column "zip") :=
    ⟨[.column "age"], _, rfl, by decide, by decide⟩
  obtain ⟨-, hfault, -⟩ := ofQuery_exact Registry.persons mistaken .sqlite
  obtain ⟨hvalid, -, -, -, hreserved⟩ := ofQuery_exact Registry.persons sound .mariadb
  have hsound : sound.Valid Registry.persons := hvalid.mp ⟨_, rfl⟩
  have hmember : Registry.persons ∈ Registry.population.schemas := List.mem_cons_self
  exact ⟨hfirst, map_eq_error.mp ((hfault _).mpr ⟨_, hfirst, rfl⟩), hmember, hsound,
    hreserved ⟨.mariadb, Registry.population.schemas, rfl⟩ hmember hsound⟩

end Select

end RecordMapper
