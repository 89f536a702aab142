import RecordMapper.Dialect
import RecordMapper.Query
import RecordMapper.Schema.Lookup

/-!
# Conditions on rows

* `Condition`: a predicate whose operators are known, with literals in place of values.
* `Predicate.check`: the condition of a predicate whose columns are declared.
* `Query.mutationFilter`: the condition under which a query lets rows be changed.
-/

namespace RecordMapper

inductive Condition where
  | compare (column : String) (operator : Operator) (literal : Literal)
  | logic (connective : Connective) (left right : Condition)
deriving DecidableEq, Repr

namespace Condition

/-- The text of a condition, with parentheses around each comparison and each combination. -/
def render (dialect : Dialect) : Condition → String
  | .compare column operator literal =>
    "(" ++ Dialect.identifier column ++ " " ++ operator.token ++ " " ++
      dialect.literal literal ++ ")"
  | .logic connective left right =>
    "(" ++ left.render dialect ++ " " ++ connective.keyword ++ " " ++ right.render dialect ++ ")"

/-- The text that a statement adds for a condition, if it has one. -/
def clause (dialect : Dialect) : Option Condition → String
  | none => ""
  | some condition => " WHERE " ++ condition.render dialect

end Condition

def Operator.ofToken (token : String) : Except Fault Operator :=
  match ofToken? token with
  | some operator => .ok operator
  | none => .error (.unknownOperator token)

/-- The condition of a predicate. Its comparisons are checked from left to right, the column of each
before its operator. -/
def Predicate.check (schema : Schema) : Predicate → Except Fault Condition
  | .compare comparison => do
    let _ ← schema.requireColumn comparison.column
    let operator ← Operator.ofToken comparison.operator
    return .compare comparison.column operator comparison.value.literal
  | .logic connective left right => do
    return .logic connective (← left.check schema) (← right.check schema)

def Query.condition (schema : Schema) (query : Query) : Except Fault (Option Condition) :=
  match query.predicate with
  | some predicate => some <$> predicate.check schema
  | none => .ok none

/-- The condition of a query that changes rows. Without a predicate all rows are changed, which the
query has to confirm. -/
def Query.mutationFilter (schema : Schema) (mutation : Mutation) (query : Query) :
    Except Fault (Option Condition) :=
  if query.predicate.isSome || query.unconditional then query.condition schema
  else .error (.unconfirmed mutation schema.table)

end RecordMapper
