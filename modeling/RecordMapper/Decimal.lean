/-!
# Integers in decimal text

* `Decimal.ofNat`, `Decimal.ofInt`: the decimal text of a number.
* `Decimal.readUInt32`, `Decimal.readInt32`: the number of a decimal text, or the first thing
  that is wrong with the text, scanning from the left.
-/

namespace RecordMapper

/-- What is wrong with a text that should be an integer. -/
inductive IntegerFault where
  | empty
  | invalidDigit
  | tooLarge
  | tooSmall
deriving DecidableEq, Repr

def IntegerFault.message : IntegerFault → String
  | .empty => "cannot parse integer from empty string"
  | .invalidDigit => "invalid digit found in string"
  | .tooLarge => "number too large to fit in target type"
  | .tooSmall => "number too small to fit in target type"

namespace Decimal

/-! ## Writing -/

/-- The decimal digits of a number, without leading zeros. -/
def ofNat (n : Nat) : String :=
  String.ofList (Nat.toDigits 10 n)

/-- The decimal digits of a number, after a minus sign if it is negative. -/
def ofInt : Int → String
  | .ofNat n => ofNat n
  | .negSucc n => "-" ++ ofNat (n + 1)

/-! ## Reading -/

def digit? (c : Char) : Option Nat :=
  if c.isDigit then some (c.toNat - '0'.toNat) else none

/-- Extends `value` by the digits of a text, as long as it stays at or below `greatest`. The first
character that is no digit, or the first digit that leads beyond `greatest`, is the failure. -/
def extend (greatest : Nat) (beyond : IntegerFault) : Nat → List Char → Except IntegerFault Nat
  | value, [] => .ok value
  | value, c :: rest =>
    match digit? c with
    | none => .error .invalidDigit
    | some d =>
      if 10 * value + d ≤ greatest then extend greatest beyond (10 * value + d) rest
      else .error beyond

/-- The number of a text that has to hold one digit at least. -/
def readDigits (greatest : Nat) (beyond : IntegerFault) : List Char → Except IntegerFault Nat
  | [] => .error .invalidDigit
  | c :: rest => extend greatest beyond 0 (c :: rest)

/-- Digits with at most a plus sign before them. -/
def readUnsigned (greatest : Nat) : List Char → Except IntegerFault Nat
  | [] => .error .empty
  | '+' :: rest => readDigits greatest .tooLarge rest
  | text => readDigits greatest .tooLarge text

/-- Digits with at most one sign before them, for numbers from `-least` to `greatest`. -/
def readSigned (least greatest : Nat) : List Char → Except IntegerFault Int
  | [] => .error .empty
  | '+' :: rest => Int.ofNat <$> readDigits greatest .tooLarge rest
  | '-' :: rest => (fun n => -Int.ofNat n) <$> readDigits least .tooSmall rest
  | text => Int.ofNat <$> readDigits greatest .tooLarge text

def readUInt32 (text : String) : Except IntegerFault UInt32 :=
  UInt32.ofNat <$> readUnsigned (UInt32.size - 1) text.toList

def readInt32 (text : String) : Except IntegerFault Int32 :=
  Int32.ofInt <$> readSigned (1 <<< 31) ((1 <<< 31) - 1) text.toList

end Decimal

end RecordMapper
