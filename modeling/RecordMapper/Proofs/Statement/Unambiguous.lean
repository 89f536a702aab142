import RecordMapper.Proofs.Reading
import RecordMapper.Proofs.Statement.Form

/-!
# Conditions are unambiguous

* `Condition.reader`: reads a condition from the start of a text.
* `Condition.run_reader`: a condition is read back, whatever follows it.
* `check_unambiguous`: predicates with the same text are the same up to the tags of integers, and
  no text of a condition goes on to be the text of another.

Names may hold parentheses, quotes and keywords. A reader still knows where it is: after a
parenthesis a backtick starts a comparison, and anything else starts a combination.
-/

namespace RecordMapper

namespace Condition

open SqlReader

/-- Takes a condition, with a bound on its depth. -/
def reader (dialect : Dialect) : Nat → SqlReader Condition
  | 0 => failure
  | bound + 1 => do
    symbol "("
    if (← get).head? = some '\x60' then
      let column ← name
      symbol " "
      let operator ← SqlReader.operator
      symbol " "
      let literal ← SqlReader.literal dialect
      symbol ")"
      return .compare column operator literal
    else
      let left ← reader dialect bound
      symbol " "
      let connective ← SqlReader.connective
      symbol " "
      let right ← reader dialect bound
      symbol ")"
      return .logic connective left right

/-- The condition at the start of a text, and what follows it. -/
def ofText? (dialect : Dialect) (text : List Char) : Option (Condition × List Char) :=
  (reader dialect text.length).run text

def depth : Condition → Nat
  | .compare .. => 1
  | .logic _ left right => max left.depth right.depth + 1

theorem depth_le_length (dialect : Dialect) (condition : Condition) :
    condition.depth ≤ (condition.render dialect).toList.length := by
  induction condition with
  | compare column operator literal =>
    simp only [render, depth, String.toList_append, List.length_append]
    have hopen : "(".toList.length = 1 := rfl
    omega
  | logic connective left right ihl ihr =>
    simp only [render, depth, String.toList_append, List.length_append]
    have hopen : "(".toList.length = 1 := rfl
    omega

theorem head?_render (dialect : Dialect) (condition : Condition) (rest : List Char) :
    ((condition.render dialect).toList ++ rest).head? = some '(' := by
  cases condition <;> simp only [render, String.append_assoc, String.toList_append] <;> rfl

/-- A condition is read back, whatever follows it. -/
theorem run_reader (dialect : Dialect) {condition : Condition}
    (hnames : ∀ n ∈ condition.columns, Quotable n) {bound : Nat}
    (hbound : condition.depth ≤ bound) (rest : List Char) :
    (reader dialect bound).run ((condition.render dialect).toList ++ rest) =
      some (condition, rest) := by
  -- what follows stays arbitrary, since a condition on the left is followed by the other one
  induction condition generalizing bound rest with
  | compare column operator literal =>
    obtain ⟨bound, rfl⟩ : ∃ b, bound = b + 1 := ⟨bound - 1, by rw [depth] at hbound; omega⟩
    have hcolumn : Quotable column := hnames column (List.mem_singleton.mpr rfl)
    have hhead : ((Dialect.identifier column).toList ++ (" ".toList ++ (operator.token.toList ++
        (" ".toList ++ ((dialect.literal literal).toList ++ (")".toList ++ rest)))))).head? =
          some '\x60' := by
      rw [Dialect.identifier, String.append_assoc, String.toList_append]
      rfl
    simp only [render, String.append_assoc, String.toList_append, List.append_assoc]
    rw [reader, run_bind_of (run_symbol "(" _), run_bind_of (run_get _), if_pos hhead,
      run_bind_of (run_name hcolumn (ends_of_isEnding rfl _)), run_bind_of (run_symbol " " _),
      run_bind_of (run_operator operator rfl), run_bind_of (run_symbol " " _),
      run_bind_of (run_literal dialect literal (ends_of_isEnding rfl _)),
      run_bind_of (run_symbol ")" _)]
    rfl
  | logic connective left right ihl ihr =>
    obtain ⟨bound, rfl⟩ : ∃ b, bound = b + 1 := ⟨bound - 1, by rw [depth] at hbound; omega⟩
    rw [depth] at hbound
    have hleft : left.depth ≤ bound := by omega
    have hright : right.depth ≤ bound := by omega
    have hreadLeft := ihl (fun n hn => hnames n (List.mem_append_left _ hn)) hleft
    have hreadRight := ihr (fun n hn => hnames n (List.mem_append_right _ hn)) hright
    have hhead : ∀ more, ((left.render dialect).toList ++ more).head? ≠ some '\x60' := by
      intro more
      rw [head?_render]
      decide
    simp only [render, String.append_assoc, String.toList_append, List.append_assoc]
    rw [reader, run_bind_of (run_symbol "(" _), run_bind_of (run_get _), if_neg (hhead _),
      run_bind_of (hreadLeft _), run_bind_of (run_symbol " " _),
      run_bind_of (run_connective connective rfl), run_bind_of (run_symbol " " _),
      run_bind_of (hreadRight _), run_bind_of (run_symbol ")" _)]
    rfl

theorem ofText?_render (dialect : Dialect) {condition : Condition}
    (hnames : ∀ n ∈ condition.columns, Quotable n) (rest : List Char) :
    ofText? dialect ((condition.render dialect).toList ++ rest) = some (condition, rest) := by
  refine run_reader dialect hnames ?_ rest
  have hdepth := condition.depth_le_length dialect
  rw [List.length_append]
  omega

end Condition

/-- Only the tags of integers are lost in a condition. -/
theorem Predicate.similar_of_check {schema : Schema} {predicate predicate' : Predicate}
    {condition : Condition} (h : predicate.check schema = .ok condition)
    (h' : predicate'.check schema = .ok condition) :
    predicate.Similar (fun value value' => value.literal = value'.literal) predicate' := by
  induction predicate generalizing predicate' condition with
  | compare comparison =>
    obtain ⟨-, operator, hoperator, rfl⟩ := check_compare_eq_ok.mp h
    cases predicate' with
    | compare comparison' =>
      obtain ⟨-, operator', hoperator', heq⟩ := check_compare_eq_ok.mp h'
      obtain ⟨hcolumn, rfl, hliteral⟩ := Condition.compare.inj heq
      obtain ⟨column, token, value⟩ := comparison
      obtain ⟨column', token', value'⟩ := comparison'
      obtain rfl : column = column' := hcolumn
      obtain rfl : token = token' := hoperator.symm.trans hoperator'
      exact .compare column token hliteral
    | logic connective left right =>
      obtain ⟨_, _, -, -, heq⟩ := check_logic_eq_ok.mp h'
      cases heq
  | logic connective left right ihl ihr =>
    obtain ⟨left₁, right₁, hleft, hright, rfl⟩ := check_logic_eq_ok.mp h
    cases predicate' with
    | compare comparison' =>
      obtain ⟨-, _, -, heq⟩ := check_compare_eq_ok.mp h'
      cases heq
    | logic connective' left' right' =>
      obtain ⟨left₂, right₂, hleft', hright', heq⟩ := check_logic_eq_ok.mp h'
      obtain ⟨rfl, rfl, rfl⟩ := Condition.logic.inj heq
      exact .logic connective (ihl hleft hleft') (ihr hright hright')

/-- Predicates with the same text are the same tree up to the tags of integers. No text of a
predicate is a proper start of another, and a predicate is read back from the start of any text. -/
theorem check_unambiguous (dialect : Dialect) {schema : Schema}
    (hcolumns : ∀ column ∈ schema.columns, Quotable column.name)
    {predicate predicate' : Predicate} {condition condition' : Condition}
    (h : predicate.check schema = .ok condition) (h' : predicate'.check schema = .ok condition') :
    (condition.render dialect = condition'.render dialect →
      predicate.Similar (fun value value' => value.literal = value'.literal) predicate') ∧
    ((condition.render dialect).toList <+: (condition'.render dialect).toList →
      condition.render dialect = condition'.render dialect) ∧
    ∀ rest, Condition.ofText? dialect ((condition.render dialect).toList ++ rest) =
      some (condition, rest) := by
  have hnames : ∀ {p : Predicate} {c : Condition}, p.check schema = .ok c →
      ∀ n ∈ c.columns, Quotable n := by
    intro p c hcheck n hn
    obtain ⟨column, hmem, rfl⟩ := Predicate.columns_of_check hcheck n hn
    exact hcolumns column hmem
  have hread := Condition.ofText?_render dialect (hnames h)
  have hread' := Condition.ofText?_render dialect (hnames h')
  -- a text that both readings start with is the text of one condition
  have hsame : ∀ rest,
      (condition'.render dialect).toList = (condition.render dialect).toList ++ rest →
        condition = condition' := by
    intro rest htext
    have hboth := hread' []
    rw [List.append_nil, htext, hread rest] at hboth
    exact (Prod.mk.inj (Option.some.inj hboth)).1
  refine ⟨fun htext => ?_, fun ⟨rest, htext⟩ => ?_, hread⟩
  · obtain rfl := hsame [] (by rw [htext, List.append_nil])
    exact Predicate.similar_of_check h h'
  · rw [hsame rest htext.symm]

/-- A table in which a column has the name of a condition. -/
def remarks : Schema where
  table := "remark"
  columns := [.primary "id", .regular "id) = 1) OR (kind" .uint32 true]
  relations := []

theorem check_unambiguous_remarks :
    (∀ column ∈ remarks.columns, Quotable column.name) ∧
      Predicate.Similar (fun value value' => value.literal = value'.literal)
        (.compare ⟨"id) = 1) OR (kind", "<=", .int32 5⟩)
        (.compare ⟨"id) = 1) OR (kind", "<=", .uint32 5⟩) := by
  have hcolumns : ∀ column ∈ remarks.columns, Quotable column.name := by decide
  have h : ∀ value : Value, value.literal = .integer 5 →
      (Predicate.compare ⟨"id) = 1) OR (kind", "<=", value⟩).check remarks =
        .ok (.compare "id) = 1) OR (kind" .lessEqual (.integer 5)) := by
    intro value hvalue
    rw [← hvalue]
    rfl
  exact ⟨hcolumns, (check_unambiguous .sqlite hcolumns (h _ rfl) (h _ rfl)).1 rfl⟩

end RecordMapper
