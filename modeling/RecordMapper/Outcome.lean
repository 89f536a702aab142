/-!
# Outcomes

* `Outcome`: how something ends that may also break down.
-/

namespace RecordMapper

/-- How something ends: with a result, with a fault that is reported, or by breaking down. -/
inductive Outcome (ε α : Type) where
  | done (result : α)
  | failed (fault : ε)
  | crashed

namespace Outcome

variable {ε δ α : Type}

/-- The outcome of what does not break down. -/
def ofExcept : Except ε α → Outcome ε α
  | .ok result => .done result
  | .error fault => .failed fault

/-- The same outcome, with another fault. -/
def mapFault (f : ε → δ) : Outcome ε α → Outcome δ α
  | .done result => .done result
  | .failed fault => .failed (f fault)
  | .crashed => .crashed

end Outcome

end RecordMapper
