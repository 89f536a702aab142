import RecordMapper.Text.Hex
import RecordMapper.Text.Split
import RecordMapper.Toml

/-!
# Numbers in TOML

* `Toml.number?`: the number that a word spells.
* `Toml.isGrouped`: where underscores may stand among the digits.

A word may have the form of a number and still spell none: one of the digits is none of its base, or
the number is too large. Such a word is a value whose number is missing.
-/

namespace RecordMapper.Toml

/-! ## Digits -/

/-- The value of a digit in a base. -/
def digitIn? (base : Nat) (c : Char) : Option Nat :=
  (Text.hexValue? c).filter (· < base)

/-- The number of some digits in a base, of which there has to be one at least. -/
def valueIn? (base : Nat) (digits : List Char) : Option Nat :=
  if digits = [] then none
  else digits.foldlM (fun n c => (base * n + ·) <$> digitIn? base c) 0

/-- The number of some digits in a base that may have a sign before them. -/
def signedValueIn? (base : Nat) : List Char → Option Int
  | '+' :: digits => (valueIn? base digits).map fun n => n
  | '-' :: digits => (valueIn? base digits).map fun n => -n
  | digits => (valueIn? base digits).map fun n => n

/-- A word without its underscores. -/
def ungroup (word : List Char) : List Char :=
  word.filter (· ≠ '_')

/-- Whether the underscores of a word stand between digits. A sign alone may stand before the first
of them, too. -/
def isGrouped (isDigit : Char → Bool) (word : List Char) : Bool :=
  let parts := Text.split '_' word
  (parts.drop 1).all (fun part => part.head?.any isDigit) &&
    parts.dropLast.all fun part => part.length == 1 || part.getLast?.any isDigit

/-- A word without its sign. -/
def dropSign : List Char → List Char
  | '+' :: rest => rest
  | '-' :: rest => rest
  | word => word

/-! ## Integers -/

/-- Whether an integer fits into 128 bits, with or without a sign. -/
def isBoundedInteger (value : Int) : Bool :=
  -(1 <<< 127 : Nat) ≤ value && value < (1 <<< 128 : Nat)

/-- The integer of a word in a base, if the underscores stand where they may. -/
def integer? (base : Nat) (word : List Char) : Option Toml :=
  if isGrouped (fun c => (digitIn? 16 c).isSome) word then
    some (.integer ((signedValueIn? base (ungroup word)).filter isBoundedInteger))
  else none

/-- An integer in a base other than ten, after the letter of the base. It need not have digits, but
it has nothing else. -/
def baseInteger? (base : Nat) (digits : List Char) : Option Toml :=
  if digits.all fun c => c == '_' || (digitIn? base c).isSome then integer? base digits else none

/-! ## Numbers with a fraction or an exponent -/

/-- What follows the digits and underscores at the start of a text. There has to be a digit. A zero
stands before others only if that is allowed. -/
def skipDigits? (zerosAllowed : Bool) (input : List Char) : Option (List Char) :=
  let (digits, rest) := input.span fun c => c.isDigit || c == '_'
  let count := digits.countP Char.isDigit
  if count = 0 ∨ (1 < count ∧ input.head? = some '0' ∧ zerosAllowed = false) then none
  else some rest

/-- What follows a fraction, if there is one. -/
def skipFraction? : List Char → Option (List Char)
  | '.' :: digits => skipDigits? true digits
  | input => some input

/-- What follows an exponent, if there is one. -/
def skipExponent? : List Char → Option (List Char)
  | 'e' :: digits => skipDigits? true (dropSign digits)
  | 'E' :: digits => skipDigits? true (dropSign digits)
  | input => some input

/-- Whether a word without its sign has the form of a number with a fraction or an exponent. -/
def hasRealForm (word : List Char) : Bool :=
  (((skipDigits? false word).bind skipFraction?).bind skipExponent?) == some []

/-- Whether `digits * 10 ^ scale` is too large for a number of 64 bits: it lies above the middle
between the largest such number and the next power of two. -/
def exceedsReals (digits : Nat) (scale : Int) : Bool :=
  let length := (Nat.toDigits 10 digits).length + scale
  if digits = 0 ∨ length < 309 then false
  else if 309 < length then true
  else (1 <<< 1024) - (1 <<< 970) ≤ digits * Nat.pow 10 scale.toNat / Nat.pow 10 (-scale).toNat

/-- Whether the number of a word with a fraction or an exponent fits into 64 bits. -/
def isBoundedReal (word : List Char) : Bool :=
  let (mantissa, power) := word.span fun c => c ≠ 'e' && c ≠ 'E'
  let (whole, fraction) := mantissa.span (· ≠ '.')
  let places := (fraction.filter Char.isDigit).length
  let digits := (valueIn? 10 ((whole ++ fraction).filter Char.isDigit)).getD 0
  let exponent := (signedValueIn? 10 (ungroup (power.drop 1))).getD 0
  !exceedsReals digits (exponent - places)

/-! ## Words -/

/-- Whether a word stands for a number that has no digits. -/
def isSpecialNumber (word : List Char) : Bool :=
  word == "inf".toList || word == "nan".toList

/-- The number of a word in base ten. It begins with a zero only if it goes on with a point, an
exponent or not at all. -/
def decimal? (word : List Char) : Option Toml :=
  let unsigned := dropSign word
  let tail := unsigned.dropWhile Char.isDigit
  if tail.any fun c => c == '.' || c == 'e' || c == 'E' then
    if hasRealForm unsigned && isGrouped Char.isDigit word then
      some (.real (isBoundedReal word))
    else none
  else if unsigned ≠ [] && tail.head?.all (· == '_') &&
      (unsigned.length == 1 || unsigned.head? != some '0') then
    integer? 10 word
  else none

/-- The number of a word. Only one in base ten may have a sign. -/
def number? : List Char → Option Toml
  | '0' :: 'x' :: digits => baseInteger? 16 digits
  | '0' :: 'o' :: digits => baseInteger? 8 digits
  | '0' :: 'b' :: digits => baseInteger? 2 digits
  | word => if isSpecialNumber (dropSign word) then some (.real true) else decimal? word

end RecordMapper.Toml
