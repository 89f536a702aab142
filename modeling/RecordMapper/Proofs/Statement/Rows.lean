import RecordMapper.Proofs.Statement.Determined
import RecordMapper.Proofs.Statement.Ending
import RecordMapper.Row

/-!
# The rows of statements

* `Reading.ofText?`, `Mutation.ofText?`: what a store makes of the text of a reading, and of that of
  a change or a removal.
* `Reading.ofText?_render`, `Mutation.ofText?_delete`, `Mutation.ofText?_update`: it is what the
  text was made of.
* `Evaluation`: how a store finds the rows for what it has read.
* `Evaluation.selected?`, `Evaluation.changed?`: the rows that a text reads, and those that a text
  changes or removes.
* `Query.selectsAlso_of_mutation`: a change or a removal of the rows of a query reaches the rows
  that a selection by the same condition reads.

All names stand between backticks but those in the order of a reading. Whether a store takes such a
word for a name is up to the store, and a word with a space in it is more than one.
-/

namespace RecordMapper

/-! ## Parts that may be missing -/

namespace SqlReader

/-- Takes the given characters if they are there, and says whether they were. -/
def optional (s : String) : SqlReader Bool := fun text =>
  if s.toList.isPrefixOf text then some (true, text.drop s.toList.length) else some (false, text)

theorem run_optional (s : String) (rest : List Char) :
    (optional s).run (s.toList ++ rest) = some (true, rest) := by
  have hprefix : s.toList.isPrefixOf (s.toList ++ rest) :=
    List.isPrefixOf_iff_prefix.mpr ⟨rest, rfl⟩
  rw [StateT.run, optional, if_pos hprefix, List.drop_left]

theorem run_optional_of_not {s : String} {text : List Char}
    (h : s.toList.isPrefixOf text = false) : (optional s).run text = some (false, text) := by
  rw [StateT.run, optional, if_neg (Bool.eq_false_iff.mp h)]

/-- Takes an integer. -/
def integer : SqlReader Int := do
  if ← optional "-" then return -(← number) else return (← number)

theorem run_integer (n : Int) {rest : List Char} (hrest : Ends rest) :
    integer.run ((Decimal.ofInt n).toList ++ rest) = some (n, rest) := by
  cases n with
  | ofNat n =>
    have hsign : "-".toList.isPrefixOf ((Decimal.ofNat n).toList ++ rest) = false := by
      cases hdigits : (Decimal.ofNat n).toList with
      | nil => exact absurd hdigits (Decimal.ofNat_ne_nil n)
      | cons c digits =>
        have hdigit : c.isDigit = true :=
          Decimal.isDigit_of_mem_ofNat (hdigits ▸ List.mem_cons_self)
        have hne : ('-' == c) = false := by
          rw [beq_eq_false_iff_ne]
          rintro rfl
          cases hdigit
        exact Bool.and_eq_false_iff.mpr (.inl hne)
    rw [Decimal.ofInt, integer, run_bind_of (run_optional_of_not hsign), if_neg Bool.false_ne_true,
      run_bind_of (run_number n hrest)]
    rfl
  | negSucc n =>
    rw [Decimal.ofInt, String.toList_append, List.append_assoc, integer,
      run_bind_of (run_optional "-" _), if_pos rfl, run_bind_of (run_number (n + 1) hrest)]
    rfl

end SqlReader

/-! ## Orders -/

/-- Whether a character may stand in a name without backticks. -/
def isBare (c : Char) : Bool := c != ' ' && c != ','

namespace OrderEntry

open SqlReader

/-- Takes a direction. Where there is none, it is the ascending one. -/
def directionReader : SqlReader Direction := do
  if ← optional " DESC" then return .descending
  else
    let _ ← optional " ASC"
    return .ascending

/-- Takes an entry of an order, whose name stands without backticks. -/
def reader (isName : String → Bool) : SqlReader OrderEntry := do
  let column ← span isBare
  if isName column then return { column, direction := ← directionReader } else failure

theorem run_directionReader (direction : Direction) (rest : List Char) :
    directionReader.run ((" " ++ direction.keyword).toList ++ rest) = some (direction, rest) := by
  cases direction with
  | ascending =>
    have hother : " DESC".toList.isPrefixOf (" ASC".toList ++ rest) = false := rfl
    rw [directionReader, Direction.keyword]
    refine (run_bind_of (run_optional_of_not hother)).trans ?_
    rw [if_neg Bool.false_ne_true, run_bind_of (run_optional " ASC" rest)]
    rfl
  | descending =>
    rw [directionReader, Direction.keyword]
    exact run_bind_of (run_optional " DESC" rest)

theorem run_reader {isName : String → Bool} {entry : OrderEntry} (hname : isName entry.column)
    (hbare : entry.column.toList.all isBare) (rest : List Char) :
    (reader isName).run ((entry.column ++ " " ++ entry.direction.keyword).toList ++ rest) =
      some (entry, rest) := by
  have hspace : ∀ c ∈ ((" " ++ entry.direction.keyword).toList ++ rest).head?,
      isBare c = false := by
    rw [String.toList_append]
    rintro _ ⟨⟩
    rfl
  rw [String.append_assoc, String.toList_append, List.append_assoc, reader,
    run_bind_of (run_span hbare hspace), if_pos hname,
    run_bind_of (run_directionReader entry.direction rest)]
  rfl

/-- Takes an order, with a bound on the number of its entries. -/
def clauseReader (isName : String → Bool) (bound : Nat) : SqlReader (List OrderEntry) := do
  if ← optional " ORDER BY " then separated (reader isName) bound else return []

theorem run_clauseReader {isName : String → Bool} {order : List OrderEntry}
    (hnames : ∀ entry ∈ order, isName entry.column ∧ entry.column.toList.all isBare) {bound : Nat}
    (hbound : (Select.orderClause order).toList.length ≤ bound) {rest : List Char}
    (hrest : Ends rest) (hcomma : rest.head? ≠ some ',')
    (hother : " ORDER BY ".toList.isPrefixOf rest = false) :
    (clauseReader isName bound).run ((Select.orderClause order).toList ++ rest) =
      some (order, rest) := by
  cases order with
  | nil =>
    rw [clauseReader]
    refine (run_bind_of (run_optional_of_not hother)).trans ?_
    rw [if_neg Bool.false_ne_true]
    rfl
  | cons entry more =>
    have hne := List.cons_ne_nil entry more
    have hclause : Select.orderClause (entry :: more) = " ORDER BY " ++
        ", ".intercalate ((entry :: more).map fun e => e.column ++ " " ++ e.direction.keyword) :=
      rfl
    rw [hclause, String.toList_append] at hbound ⊢
    have hcount : (entry :: more).length ≤ bound := by
      refine Nat.le_trans (length_le_intercalate fun e _ => ?_)
        (Nat.le_trans (Nat.le_add_left _ _) (List.length_append ▸ hbound))
      simp only [String.toList_append, List.length_append]
      cases e.direction <;> exact Nat.le_add_left 1 _
    have hread : (separated (reader isName) bound).run _ = some ((entry :: more).map id, rest) :=
      run_separated (fun e he more' _ => run_reader (hnames e he).1 (hnames e he).2 more')
        hne hcount hrest hcomma
    rw [List.append_assoc, clauseReader, run_bind_of (run_optional _ _), if_pos rfl, hread,
      List.map_id]

end OrderEntry

/-! ## Pages -/

/-- Whether a store holds an integer as a limit or an offset. -/
def Dialect.isCount : Dialect → Int → Bool
  | .mariadb, count => 0 ≤ count ∧ count < UInt64.size
  | .sqlite, count => Int64.minValue.toInt ≤ count ∧ count ≤ Int64.maxValue.toInt

theorem Dialect.isCount_unboundedCount (dialect : Dialect) :
    dialect.isCount dialect.unboundedCount := by
  cases dialect <;> rfl

namespace Page

open SqlReader

/-- Takes a limit or an offset. -/
def countReader (dialect : Dialect) : SqlReader Int := do
  let count ← integer
  if dialect.isCount count then return count else failure

/-- Takes the part of the rows to read. An offset below zero is none. -/
def reader (dialect : Dialect) : SqlReader Page := do
  if ← optional " LIMIT " then
    let limit ← countReader dialect
    if ← optional " OFFSET " then
      return { limit, offset := UInt64.ofNat (← countReader dialect).toNat }
    else return { limit := limit, offset := none }
  else return { limit := none, offset := none }

/-- The rows of a part. A limit below zero is none. -/
def rowsOf (page : Page) (rows : List Row) : List Row :=
  let rest := rows.drop (page.offset.elim 0 (·.toNat))
  match page.limit with
  | none => rest
  | some limit => if limit < 0 then rest else rest.take limit.toNat

theorem run_countReader {dialect : Dialect} {count : Int} (h : dialect.isCount count)
    {rest : List Char} (hrest : Ends rest) :
    (countReader dialect).run ((Decimal.ofInt count).toList ++ rest) = some (count, rest) := by
  rw [countReader, run_bind_of (run_integer count hrest), if_pos h]
  rfl

/-- The text of a part of the rows starts with a space, if it has any. -/
theorem ends_words (page : Page) :
    Ends (spaced page.words) ∧ (spaced page.words).head? ≠ some ',' ∧
      " ORDER BY ".toList.isPrefixOf (spaced page.words) = false := by
  obtain ⟨limit, offset⟩ := page
  cases limit <;> cases offset
  case none.none => exact ⟨ends_nil, nofun, rfl⟩
  all_goals exact ⟨fun c hc => .inl (Option.some.inj hc).symm, nofun, rfl⟩

/-- Whether a store holds the limit and the offset of a part. An offset comes after a limit. -/
structure Counts (dialect : Dialect) (page : Page) : Prop where
  limit : ∀ limit ∈ page.limit, dialect.isCount limit
  offset : ∀ offset ∈ page.offset, dialect.isCount offset.toNat
  limited : page.offset.isSome → page.limit.isSome

/-- The part of the rows to read is read back. -/
theorem Counts.run_reader {dialect : Dialect} {page : Page} (h : page.Counts dialect) :
    (reader dialect).run (spaced page.words) = some (page, []) := by
  obtain ⟨limit, offset⟩ := page
  obtain ⟨hlimit, hoffset, hlimited⟩ := h
  cases limit with
  | none =>
    cases offset with
    | none => rfl
    | some offset => cases hlimited rfl
  | some limit =>
    have htext : spaced (words ⟨some limit, offset⟩) =
        " LIMIT ".toList ++ ((Decimal.ofInt limit).toList ++ spaced (words ⟨none, offset⟩)) := by
      simp [words, spaced]
    rw [htext, reader]
    refine (run_bind_of (run_optional _ _)).trans ?_
    rw [if_pos rfl, run_bind_of (run_countReader (hlimit limit rfl) (ends_words _).1)]
    cases offset with
    | none => rfl
    | some offset =>
      have hmore : spaced (words ⟨none, some offset⟩) =
          " OFFSET ".toList ++ ((Decimal.ofInt offset.toNat).toList ++ []) := by
        simp [words, spaced, Decimal.ofInt]
      rw [hmore]
      refine (run_bind_of (run_optional _ _)).trans ?_
      rw [if_pos rfl, run_bind_of (run_countReader (hoffset offset rfl) ends_nil),
        Int.toNat_natCast, UInt64.ofNat_toNat]
      rfl

end Page

/-- Whether a store holds the limit and the offset of a query. -/
structure Query.Counts (dialect : Dialect) (query : Query) : Prop where
  limit : ∀ count ∈ query.limit, dialect.isCount count.toNat
  offset : ∀ count ∈ query.offset, dialect.isCount count.toNat

theorem Query.Counts.page {dialect : Dialect} {query : Query} (h : query.Counts dialect) :
    (query.page dialect).Counts dialect := by
  refine ⟨?_, h.offset, ?_⟩
  · intro limit hlimit
    rw [Query.page] at hlimit
    dsimp only at hlimit
    split at hlimit
    · next _ _ count hcount =>
      cases hlimit
      exact h.limit count hcount
    · cases hlimit
      exact dialect.isCount_unboundedCount
    · cases hlimit
  · cases hcount : query.limit <;> cases hoffset : query.offset <;>
      simp [Query.page, hcount, hoffset]

/-! ## Texts of readings -/

/-- What a store makes of the text of a reading, as far as it tells which rows are read. -/
structure Reading where
  table : String
  condition : Option Condition
  order : List OrderEntry
  page : Page
deriving DecidableEq

namespace Reading

open SqlReader

/-- Takes the end of a text, with the remark in it if there is one. -/
def remark : SqlReader Unit := fun text =>
  if text = [] ∨ (" -- ".toList.isPrefixOf text ∧ '\n' ∉ text) then some ((), []) else none

/-- Takes a whole reading, with a bound on its size. -/
def reader (dialect : Dialect) (isName : String → Bool) (bound : Nat) : SqlReader Reading := do
  let (_, table, condition) ← Select.headReader dialect bound
  let order ← OrderEntry.clauseReader isName bound
  let page ← Page.reader dialect
  remark
  return { table, condition, order, page }

/-- The reading of a whole text. -/
def ofText? (dialect : Dialect) (isName : String → Bool) (sql : String) : Option Reading :=
  ((reader dialect isName sql.toList.length).run sql.toList).map Prod.fst

/-- The text of a reading is read back, if the words of its order are taken for names. -/
theorem ofText?_render {dialect : Dialect} {isName : String → Bool} {schema : Schema}
    (hschema : schema.NamesQuotable) {query : Query} {select : Select}
    (h : Select.ofQuery schema query = .ok select) (hcounts : query.Counts dialect)
    (hnames : ∀ entry ∈ query.order, isName entry.column ∧ entry.column.toList.all isBare) :
    ofText? dialect isName (select.render dialect) = some {
      table := schema.table
      condition := select.condition
      order := query.order
      page := query.page dialect } := by
  obtain ⟨hcondition, hparts⟩ := Query.select_of_ofQuery h
  have hprojection : select.projection.Written := by
    rw [hparts]
    exact hschema.written_projectionOf query
  have htable : select.table = schema.table := by rw [hparts]
  have hhead := Select.run_headReader dialect hprojection (htable ▸ hschema.table)
    fun found hfound => Query.quotable_of_condition hschema hcondition found hfound
  have horder : select.order = query.order := by rw [hparts]
  have hpage : (Select.pageClause dialect select.limit select.offset).toList =
      spaced (query.page dialect).words := by
    rw [hparts]
    exact Select.pageClause_eq_spaced dialect query
  have hbound : (Select.orderClause query.order).toList.length ≤
      (select.render dialect).toList.length := by
    unfold Select.render
    rw [horder]
    simp only [String.toList_append, List.length_append]
    omega
  obtain ⟨hends, hcomma, hother⟩ := (query.page dialect).ends_words
  rw [Select.ending, horder, hpage] at hhead
  rw [ofText?, reader, run_bind_of hhead,
    run_bind_of (OrderEntry.run_clauseReader hnames hbound hends hcomma hother),
    run_bind_of hcounts.page.run_reader, htable]
  rfl

end Reading

/-! ## Texts of changes and removals -/

namespace Mutation

open SqlReader

/-- Takes the text of a change or a removal, with a bound on its size: the table, and the condition
of its rows. -/
def reader (dialect : Dialect) (bound : Nat) : SqlReader (String × Option Condition) := do
  if ← optional "DELETE FROM " then
    let table ← name
    return (table, ← Condition.clauseReader dialect bound)
  else
    let update ← Update.whole dialect bound
    return (update.table, update.condition)

/-- The table and the condition of a change or a removal. -/
def ofText? (dialect : Dialect) (sql : String) : Option (String × Option Condition) :=
  match (reader dialect sql.toList.length).run sql.toList with
  | some (found, []) => some found
  | _ => none

variable (dialect : Dialect)

theorem ofText?_delete {delete : Delete} (htable : Quotable delete.table)
    (hnames : ∀ found, delete.condition = some found → ∀ n ∈ found.columns, Quotable n) :
    ofText? dialect (delete.render dialect) = some (delete.table, delete.condition) := by
  have htext : (delete.render dialect).toList = "DELETE FROM ".toList ++
      ((Dialect.identifier delete.table).toList ++
        (Condition.clause dialect delete.condition).toList) := by
    unfold Delete.render
    simp only [String.toList_append, List.append_assoc]
  have hbound : (Condition.clause dialect delete.condition).toList.length ≤
      (delete.render dialect).toList.length := by
    rw [htext]
    simp only [List.length_append]
    omega
  rw [ofText?]
  generalize (delete.render dialect).toList.length = bound at hbound ⊢
  rw [htext, reader, run_bind_of (run_optional _ _), if_pos rfl,
    run_bind_of (run_name htable (Update.ends_clause dialect delete.condition).1),
    run_bind_of (Condition.run_clauseReader dialect hnames hbound)]
  rfl

theorem ofText?_update {update : Update}
    (h : Update.ofText? dialect (update.render dialect) = some update) :
    ofText? dialect (update.render dialect) = some (update.table, update.condition) := by
  have hother : "DELETE FROM ".toList.isPrefixOf (update.render dialect).toList = false := by
    rw [Update.toList_render]
    rfl
  rw [Update.ofText?] at h
  split at h
  · next found hrun =>
    cases h
    rw [ofText?, reader, run_bind_of (run_optional_of_not hother), if_neg Bool.false_ne_true,
      run_bind_of hrun]
    rfl
  · cases h

end Mutation

/-! ## Rows -/

/-- The rows of each table. -/
abbrev Tables := String → List Row

/-- How a store finds rows: the words that it takes for names, the rows that satisfy a condition,
and the order in which rows come. -/
structure Evaluation where
  isName : String → Bool
  isBare : ∀ name, isName name → name.toList.all isBare
  holds : Condition → Row → Bool
  arrange : List OrderEntry → List Row → List Row
  perm : ∀ order rows, (arrange order rows).Perm rows

namespace Evaluation

/-- The rows that satisfy a condition, or all of them if there is none. -/
def restrict (evaluation : Evaluation) (condition : Option Condition) (rows : List Row) :
    List Row :=
  rows.filter fun row => condition.all (evaluation.holds · row)

/-- The rows that the text of a reading is answered with. -/
def selected? (evaluation : Evaluation) (dialect : Dialect) (tables : Tables) (sql : String) :
    Option (List Row) := do
  let reading ← Reading.ofText? dialect evaluation.isName sql
  let rows := evaluation.restrict reading.condition (tables reading.table)
  return reading.page.rowsOf (evaluation.arrange reading.order rows)

/-- The rows that the text of a change or a removal reaches. -/
def changed? (evaluation : Evaluation) (dialect : Dialect) (tables : Tables) (sql : String) :
    Option (List Row) := do
  let (table, condition) ← Mutation.ofText? dialect sql
  return evaluation.restrict condition (tables table)

end Evaluation

namespace Query

variable {dialect : Dialect} {schema : Schema} {query : Query}

/-- The same query for all rows of its condition. -/
def whole (query : Query) : Query :=
  { query with limit := none, offset := none }

/-- How the rows that the selections of a query are answered with relate to some rows. The selection
by the query itself has a limit and an offset. -/
structure SelectsRows (dialect : Dialect) (schema : Schema) (query : Query)
    (evaluation : Evaluation) (tables : Tables) (rows : List Row) : Prop where
  page : ∀ select, Select.ofQuery schema query = .ok select → query.Counts dialect →
    evaluation.selected? dialect tables (select.render dialect) =
      some ((query.page dialect).rowsOf (evaluation.arrange query.order rows))
  whole : ∀ select, Select.ofQuery schema query.whole = .ok select →
    ∃ selected, evaluation.selected? dialect tables (select.render dialect) = some selected ∧
      selected.Perm rows

/-- What a selection by the query of a change or a removal has in common with it, given the
condition under which rows are changed, and the text. -/
structure SelectsAlso (dialect : Dialect) (schema : Schema) (query : Query)
    (condition : Option Condition) (sql : String) : Prop where
  declared : ∀ found, condition = some found →
    ∀ name ∈ found.columns, ∃ column ∈ schema.columns, column.name = name
  select_iff : (∃ select, Select.ofQuery schema query = .ok select) ↔ query.ReadsDeclared schema
  condition_eq : ∀ select, Select.ofQuery schema query = .ok select → select.condition = condition
  rows : schema.NamesQuotable → ∀ (evaluation : Evaluation) tables,
    ∃ changed, evaluation.changed? dialect tables sql = some changed ∧
      ((∀ entry ∈ query.order, evaluation.isName entry.column) →
        query.SelectsRows dialect schema evaluation tables changed)

/-- Selections by queries with one predicate have one condition. -/
theorem condition_of_ofQuery {other : Query} (hpredicate : other.predicate = query.predicate)
    {condition : Option Condition} (h : query.condition schema = .ok condition) {select : Select}
    (hselect : Select.ofQuery schema other = .ok select) : select.condition = condition := by
  have hcondition := (select_of_ofQuery hselect).1
  rw [Query.condition, hpredicate] at hcondition
  exact Except.ok.inj (hcondition.symm.trans h)

theorem selectsRows_of_condition (hschema : schema.NamesQuotable) {condition : Option Condition}
    (h : query.condition schema = .ok condition) (evaluation : Evaluation) (tables : Tables)
    (hnames : ∀ entry ∈ query.order, evaluation.isName entry.column) :
    query.SelectsRows dialect schema evaluation tables
      (evaluation.restrict condition (tables schema.table)) := by
  have hbare : ∀ entry ∈ query.order,
      evaluation.isName entry.column ∧ entry.column.toList.all isBare :=
    fun entry hentry => ⟨hnames entry hentry, evaluation.isBare _ (hnames entry hentry)⟩
  constructor
  case page =>
    intro select hselect hcounts
    rw [Evaluation.selected?, Reading.ofText?_render hschema hselect hcounts hbare,
      condition_of_ofQuery rfl h hselect]
    rfl
  case whole =>
    intro select hselect
    have hcounts : query.whole.Counts dialect := ⟨nofun, nofun⟩
    have hcondition : select.condition = condition := condition_of_ofQuery (by rfl) h hselect
    rw [Evaluation.selected?, Reading.ofText?_render hschema hselect hcounts hbare, hcondition]
    exact ⟨_, rfl, evaluation.perm _ _⟩

theorem selectsAlso_of_condition {condition : Option Condition}
    (h : query.condition schema = .ok condition) {sql : String}
    (htext : schema.NamesQuotable →
      Mutation.ofText? dialect sql = some (schema.table, condition)) :
    SelectsAlso dialect schema query condition sql := by
  constructor
  case declared =>
    rintro found rfl
    rw [Query.condition] at h
    split at h
    · obtain ⟨_, hcheck, hfound⟩ := map_eq_ok.mp h
      cases hfound
      exact Predicate.columns_of_check hcheck
    · cases h
  case select_iff =>
    rw [select_ok_iff]
    exact ⟨fun hselect => hselect.1, fun hdeclared => ⟨hdeclared, condition, h⟩⟩
  case condition_eq => exact fun select hselect => condition_of_ofQuery rfl h hselect
  case rows =>
    intro hschema evaluation tables
    refine ⟨_, ?_, selectsRows_of_condition hschema h evaluation tables⟩
    rw [Evaluation.changed?, htext hschema]
    rfl

/-- A change or a removal reaches the rows that a selection by the same query reads, except that the
selection alone has a limit and an offset, and alone needs what it reads, resolves and orders by to
be declared. -/
theorem selectsAlso_of_mutation (dialect : Dialect) (query : Query) :
    (∀ schema delete, Delete.ofQuery schema query = .ok delete →
      SelectsAlso dialect schema query delete.condition (delete.render dialect)) ∧
    ∀ record update, Update.ofRecord record query = .ok update →
      SelectsAlso dialect record.schema query update.condition (update.render dialect) := by
  constructor
  · intro schema delete h
    obtain ⟨condition, hfilter, h⟩ := bind_eq_ok.mp h
    cases h
    have hcondition := condition_of_mutationFilter hfilter
    refine selectsAlso_of_condition hcondition fun hschema => ?_
    exact Mutation.ofText?_delete dialect hschema.table
      fun found hfound => quotable_of_condition hschema hcondition found hfound
  · intro record update h
    obtain ⟨hfilter, -, -, htable, -⟩ := Update.ofRecord_eq_ok.mp h
    refine selectsAlso_of_condition (condition_of_mutationFilter hfilter) fun hschema => ?_
    have hread := Mutation.ofText?_update dialect (Update.ofText?_of_ofRecord hschema dialect h)
    rwa [htable] at hread

/-- A store that takes its rows as they come, where users have ages. -/
def userStore : Evaluation where
  isName name := name = "id" ∨ name = "age"
  isBare name h := by
    rcases of_decide_eq_true h with rfl | rfl <;> rfl
  holds _ _ := true
  arrange _ rows := rows
  perm _ rows := .refl rows

/-- Two rows in each table. -/
def twoRows : Tables := fun table => [⟨[("id", some table)]⟩, ⟨[("id", none)]⟩]

/-- Users are removed by a condition, under an order and a limit that a selection keeps. -/
theorem selectsAlso_of_mutation_users :
    let users : Schema := ⟨"user", [.primary "id", .regular "age" .int32 true], []⟩
    let query := ofSteps [.filter (.compare ⟨"age", ">", .int32 7⟩), .orderBy ⟨"age", .descending⟩,
      .limit 1]
    ∃ delete select, Delete.ofQuery users query = .ok delete ∧
      Select.ofQuery users query = .ok select ∧ select.condition = delete.condition ∧
      ∃ changed, userStore.changed? .sqlite twoRows (delete.render .sqlite) = some changed ∧
        userStore.selected? .sqlite twoRows (select.render .sqlite) =
          some ((query.page .sqlite).rowsOf (userStore.arrange query.order changed)) := by
  intro users query
  obtain ⟨hdelete, -⟩ := selectsAlso_of_mutation .sqlite query
  have hsame := hdelete users _ rfl
  have hquotable : users.NamesQuotable := ⟨by decide, by decide, by decide⟩
  obtain ⟨changed, hchanged, hselects⟩ := hsame.rows hquotable userStore twoRows
  have hlimit : Dialect.isCount .sqlite (1 : UInt64).toNat := by decide
  have hcounts : query.Counts .sqlite := ⟨by rintro _ ⟨⟩; exact hlimit, nofun⟩
  refine ⟨_, _, rfl, rfl, hsame.condition_eq _ rfl, changed, hchanged, ?_⟩
  exact (hselects (by decide)).page _ rfl hcounts

/-- All users are removed although the query orders them by a column that is not declared, so that
they cannot be selected; although it is for one of them only; although the text of the selection
ends in the name of a column to order by; and although it goes on to another table in the name of a
column to read. -/
theorem not_selectsAlso_users :
    let users : Schema := ⟨"user", [.primary "id", .regular "age" .int32 true,
      .regular "age LIMIT 0 --" .int32 true,
      .regular "age\x60 FROM \x60other\x60 -- " .int32 true], []⟩
    let undeclared := ofSteps [.confirm, .orderBy ⟨"nope", .ascending⟩]
    let limited := ofSteps [.confirm, .limit 1]
    let cut := ofSteps [.confirm, .orderBy ⟨"age LIMIT 0 --", .ascending⟩]
    let diverted := ofSteps [.confirm, .select ["age\x60 FROM \x60other\x60 -- "]]
    let user : Row := ⟨[("id", some "user")]⟩
    let other : Row := ⟨[("id", some "other")]⟩
    let missing : Row := ⟨[("id", none)]⟩
    (Delete.ofQuery users undeclared = .ok ⟨"user", none⟩ ∧
      Select.ofQuery users undeclared = .error (.unknownColumn "user" "nope")) ∧
    (∀ query, query = limited ∨ query = cut ∨ query = diverted →
      ∃ delete, Delete.ofQuery users query = .ok delete ∧ ∀ dialect,
        userStore.changed? dialect twoRows (delete.render dialect) = some [user, missing]) ∧
    (∃ select, Select.ofQuery users limited = .ok select ∧ ∀ dialect,
      userStore.selected? dialect twoRows (select.render dialect) = some [user]) ∧
    (∃ select, Select.ofQuery users cut = .ok select ∧ ∀ dialect,
      userStore.selected? dialect twoRows (select.render dialect) = some []) ∧
    ∃ select, Select.ofQuery users diverted = .ok select ∧ ∀ dialect,
      userStore.selected? dialect twoRows (select.render dialect) = some [other, missing] := by
  refine ⟨⟨rfl, rfl⟩, ?_, ⟨_, rfl, ?_⟩, ⟨_, rfl, ?_⟩, _, rfl, ?_⟩
  · rintro _ (rfl | rfl | rfl) <;> refine ⟨_, rfl, ?_⟩ <;> rintro (_ | _) <;> decide +kernel
  all_goals
    rintro (_ | _) <;> decide +kernel

end Query

end RecordMapper
