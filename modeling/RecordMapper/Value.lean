import RecordMapper.Decimal

/-!
# Values and cells

* `Value`: what a column holds when it holds something, of one of three types.
* `Cell`: a place that is undefined, null, or holds something.
* `Literal`: a value as a statement writes it.
-/

namespace RecordMapper

/-! ## Values -/

inductive ValueType where
  | int32
  | uint32
  | text
deriving DecidableEq, Repr

namespace ValueType

def name : ValueType → String
  | .int32 => "int32"
  | .uint32 => "uint32"
  | .text => "text"

/-- What the values of a value type are made of. -/
@[reducible] def Carrier : ValueType → Type
  | .int32 => Int32
  | .uint32 => UInt32
  | .text => String

instance : (type : ValueType) → DecidableEq type.Carrier
  | .int32 => inferInstanceAs (DecidableEq Int32)
  | .uint32 => inferInstanceAs (DecidableEq UInt32)
  | .text => inferInstanceAs (DecidableEq String)

end ValueType

inductive Value where
  | int32 (number : Int32)
  | uint32 (number : UInt32)
  | text (content : String)
deriving DecidableEq, Repr

namespace Value

def type : Value → ValueType
  | .int32 _ => .int32
  | .uint32 _ => .uint32
  | .text _ => .text

/-- A value, built from what its type is made of. -/
def ofCarrier : (type : ValueType) → type.Carrier → Value
  | .int32, number => .int32 number
  | .uint32, number => .uint32 number
  | .text, content => .text content

/-- What a value of the given type is made of; nothing for a value of another type. -/
def carrier? : (type : ValueType) → Value → Option type.Carrier
  | .int32, .int32 number => some number
  | .uint32, .uint32 number => some number
  | .text, .text content => some content
  | _, _ => none

/-- A value as plain text: the decimal of a number, a text itself. -/
def display : Value → String
  | .int32 number => Decimal.ofInt number.toInt
  | .uint32 number => Decimal.ofNat number.toNat
  | .text content => content

@[simp] theorem type_ofCarrier (type : ValueType) (x : type.Carrier) :
    (ofCarrier type x).type = type := by
  cases type <;> rfl

@[simp] theorem carrier?_ofCarrier (type : ValueType) (x : type.Carrier) :
    (ofCarrier type x).carrier? type = some x := by
  cases type <;> rfl

end Value

/-! ## Cells -/

/-- A place for something: never set, set to nothing, or set to something. -/
inductive Cell (α : Type) where
  | undefined
  | null
  | present (content : α)
deriving DecidableEq, Repr

namespace Cell

variable {α β : Type}

instance : Inhabited (Cell α) := ⟨.undefined⟩

def isUndefined : Cell α → Bool
  | .undefined => true
  | _ => false

def isNull : Cell α → Bool
  | .null => true
  | _ => false

def isPresent : Cell α → Bool
  | .present _ => true
  | _ => false

def present? : Cell α → Option α
  | .present x => some x
  | _ => none

/-- Changes what the cell holds and keeps its state. -/
def map (f : α → β) : Cell α → Cell β
  | .undefined => .undefined
  | .null => .null
  | .present x => .present (f x)

/-- Changes what the cell holds by a function that may fail. -/
def mapM {ε : Type} (f : α → Except ε β) : Cell α → Except ε (Cell β)
  | .undefined => .ok .undefined
  | .null => .ok .null
  | .present x => .present <$> f x

/-- A cell that was set, to nothing or to something. -/
def ofOption : Option α → Cell α
  | none => .null
  | some x => .present x

end Cell

/-! ## Literals -/

/-- A value as a statement writes it. -/
inductive Literal where
  | null
  | integer (number : Int)
  | text (content : String)
deriving DecidableEq, Repr

def Value.literal : Value → Literal
  | .int32 number => .integer number.toInt
  | .uint32 number => .integer number.toNat
  | .text content => .text content

/-- The literal that a statement writes for a cell; nothing for a cell that was never set. -/
def Cell.literal? : Cell Value → Option Literal
  | .undefined => none
  | .null => some .null
  | .present value => some value.literal

end RecordMapper
