import RecordMapper.Value

/-!
# Predicates

* `Operator`: the comparisons of a store, with their spelling.
* `Predicate`: a tree of comparisons between a column and a value, as a caller states it. The
  operator of a comparison is the text that the caller gave, which may be no operator at all.
-/

namespace RecordMapper

/-! ## Operators -/

inductive Operator where
  | equal
  | notEqual
  | greater
  | less
  | greaterEqual
  | lessEqual
deriving DecidableEq, Repr

namespace Operator

def token : Operator → String
  | .equal => "="
  | .notEqual => "!="
  | .greater => ">"
  | .less => "<"
  | .greaterEqual => ">="
  | .lessEqual => "<="

def ofToken? : String → Option Operator
  | "=" => some .equal
  | "!=" => some .notEqual
  | ">" => some .greater
  | "<" => some .less
  | ">=" => some .greaterEqual
  | "<=" => some .lessEqual
  | _ => none

@[simp] theorem ofToken?_token (op : Operator) : ofToken? op.token = some op := by
  cases op <;> rfl

theorem token_of_ofToken? {text : String} {op : Operator} (h : ofToken? text = some op) :
    op.token = text := by
  unfold ofToken? at h
  split at h <;> simp_all [token] <;> subst h <;> rfl

end Operator

inductive Connective where
  | and
  | or
deriving DecidableEq, Repr

def Connective.keyword : Connective → String
  | .and => "AND"
  | .or => "OR"

/-! ## Trees -/

structure Comparison where
  column : String
  operator : String
  value : Value
deriving DecidableEq, Repr

/-- A tree of comparisons. -/
inductive Predicate where
  | compare (comparison : Comparison)
  | logic (connective : Connective) (left right : Predicate)
deriving DecidableEq, Repr

namespace Predicate

/-- The comparisons of a tree, from left to right. -/
def leaves : Predicate → List Comparison
  | .compare comparison => [comparison]
  | .logic _ left right => left.leaves ++ right.leaves

def leafCount : Predicate → Nat
  | .compare _ => 1
  | .logic _ left right => left.leafCount + right.leafCount

theorem length_leaves (predicate : Predicate) : predicate.leaves.length = predicate.leafCount := by
  induction predicate with
  | compare => rfl
  | logic _ left right ihl ihr => simp [leaves, leafCount, ihl, ihr]

/-- Whether a tree holds, given which of its comparisons hold. -/
def eval (holds : Comparison → Bool) : Predicate → Bool
  | .compare comparison => holds comparison
  | .logic .and left right => left.eval holds && right.eval holds
  | .logic .or left right => left.eval holds || right.eval holds

/-- Asks for one more condition beside those asked for so far, which stay on the left. -/
def conjoin : Option Predicate → Predicate → Predicate
  | none, next => next
  | some root, next => .logic .and root next

end Predicate

end RecordMapper
