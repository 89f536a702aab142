import RecordMapper.Json.Basic

/-!
# Reading JSON

* `Json.read?`: the value of a text. The grammar is that of JSON and nothing beyond it: blanks are
  the space, the tab and the two line characters, and nothing but blanks may follow the value.
-/

namespace RecordMapper.Json

/-- Whether a character is a blank. -/
def isBlank (c : Char) : Bool :=
  c == ' ' || c == '\t' || c == '\n' || c == '\r'

/-- What follows the blanks at the start of a text. -/
def skipBlanks (input : List Char) : List Char :=
  input.dropWhile isBlank

/-- What follows a word at the start of a text. -/
def skipWord? : List Char → List Char → Option (List Char)
  | [], input => some input
  | c :: word, d :: input => if c = d then skipWord? word input else none
  | _ :: _, [] => none

/-! ## Numbers -/

/-- The value of digits, after that of the digits before them. -/
def digitsValue (value : Nat) (digits : List Char) : Nat :=
  digits.foldl (fun value c => 10 * value + (c.toNat - '0'.toNat)) value

/-- The digits at the start of a text, one at least, and what follows them. -/
def readDigits (input : List Char) : Option (List Char × List Char) :=
  match input.span Char.isDigit with
  | ([], _) => none
  | (digits, rest) => some (digits, rest)

/-- The digits before the point. A zero stands alone. -/
def readWhole : List Char → Option (List Char × List Char)
  | '0' :: rest => some (['0'], rest)
  | input => readDigits input

/-- The digits after the point, if there is a point. -/
def readFraction : List Char → Option (Option (List Char) × List Char)
  | '.' :: rest => (readDigits rest).map fun r => (some r.1, r.2)
  | input => some (none, input)

/-- The exponent after its letter: a number with at most one sign before it. -/
def readPower : List Char → Option (Int × List Char)
  | '+' :: rest => (readDigits rest).map fun r => (Int.ofNat (digitsValue 0 r.1), r.2)
  | '-' :: rest => (readDigits rest).map fun r => (-Int.ofNat (digitsValue 0 r.1), r.2)
  | input => (readDigits input).map fun r => (Int.ofNat (digitsValue 0 r.1), r.2)

/-- The exponent, if there is one. -/
def readExponent : List Char → Option (Option Int × List Char)
  | 'e' :: rest => (readPower rest).map fun r => (some r.1, r.2)
  | 'E' :: rest => (readPower rest).map fun r => (some r.1, r.2)
  | input => some (none, input)

/-- The number at the start of a text, after its sign. -/
def readMagnitude (negative : Bool) (input : List Char) : Option (Number × List Char) := do
  let (whole, rest) ← readWhole input
  let (fraction, rest) ← readFraction rest
  let (exponent, rest) ← readExponent rest
  let places := fraction.getD []
  return ({
    negative
    digits := digitsValue (digitsValue 0 whole) places
    scale := exponent.getD 0 - places.length
    isPlain := fraction.isNone && exponent.isNone }, rest)

/-- The number at the start of a text. -/
def readNumber : List Char → Option (Number × List Char)
  | '-' :: rest => readMagnitude true rest
  | input => readMagnitude false input

/-! ## Strings -/

/-- A part of a string: a character, or the number that an escape gives. -/
inductive Piece where
  | char (c : Char)
  | unit (n : Nat)

/-- The character of an escape by a letter. -/
def unescape? : Char → Option Char
  | '"' => some '"'
  | '\\' => some '\\'
  | '/' => some '/'
  | 'b' => some '\x08'
  | 'f' => some '\x0c'
  | 'n' => some '\n'
  | 'r' => some '\r'
  | 't' => some '\t'
  | _ => none

/-- The parts of a string up to its closing quote, and what follows that quote. -/
def readPieces : List Char → Option (List Piece × List Char)
  | [] => none
  | '"' :: rest => some ([], rest)
  | '\\' :: 'u' :: a :: b :: c :: d :: rest => do
    let unit ← Text.hexNumber? [a, b, c, d]
    let (pieces, rest) ← readPieces rest
    return (.unit unit :: pieces, rest)
  | '\\' :: c :: rest => do
    let c ← unescape? c
    let (pieces, rest) ← readPieces rest
    return (.char c :: pieces, rest)
  | c :: rest =>
    if c.toNat < 0x20 then none
    else do
      let (pieces, rest) ← readPieces rest
      return (.char c :: pieces, rest)

/-- Whether a number is the first half of a surrogate pair. -/
def isHighHalf (n : Nat) : Bool := 0xD800 ≤ n && n < 0xDC00

/-- Whether a number is the second half of a surrogate pair. -/
def isLowHalf (n : Nat) : Bool := 0xDC00 ≤ n && n < 0xE000

/-- The text of the parts of a string. Two halves of a pair are one character; a half alone is
none. -/
def joinPieces : List Piece → Option (List Char)
  | [] => some []
  | .char c :: rest => (c :: ·) <$> joinPieces rest
  | .unit high :: .unit low :: rest =>
    if isHighHalf high && isLowHalf low then
      (Char.ofNat (0x10000 + (high - 0xD800) * 0x400 + (low - 0xDC00)) :: ·) <$> joinPieces rest
    else if isHighHalf high || isLowHalf high then none
    else (Char.ofNat high :: ·) <$> joinPieces (.unit low :: rest)
  | .unit n :: rest =>
    if isHighHalf n || isLowHalf n then none else (Char.ofNat n :: ·) <$> joinPieces rest

/-- The content of a string after its opening quote, and what follows its closing quote. -/
def readString (input : List Char) : Option (Option String × List Char) :=
  (readPieces input).map fun r => ((joinPieces r.1).map String.ofList, r.2)

/-! ## Values -/

mutual

/-- The value at the start of a text, and what follows it. Each step into a value takes a character
at least, so the length of the text bounds their number. -/
def readValue : Nat → List Char → Option (Json × List Char)
  | 0, _ => none
  | steps + 1, input =>
    match skipBlanks input with
    | '"' :: rest => (readString rest).map fun r => (.text r.1, r.2)
    | '[' :: rest =>
      match skipBlanks rest with
      | ']' :: rest => some (.array [], rest)
      | rest => (readItems steps rest).map fun r => (.array r.1, r.2)
    | '\x7b' :: rest =>
      match skipBlanks rest with
      | '\x7d' :: rest => some (.object [], rest)
      | rest => (readMembers steps rest).map fun r => (.object r.1, r.2)
    | 'n' :: rest => (skipWord? "ull".toList rest).map fun rest => (.null, rest)
    | 't' :: rest => (skipWord? "rue".toList rest).map fun rest => (.bool true, rest)
    | 'f' :: rest => (skipWord? "alse".toList rest).map fun rest => (.bool false, rest)
    | input => (readNumber input).map fun r => (.number r.1, r.2)

/-- The items of an array up to its closing bracket, one at least. -/
def readItems : Nat → List Char → Option (List Json × List Char)
  | 0, _ => none
  | steps + 1, input => do
    let (item, rest) ← readValue steps input
    match skipBlanks rest with
    | ']' :: rest => return ([item], rest)
    | ',' :: rest =>
      let (items, rest) ← readItems steps rest
      return (item :: items, rest)
    | _ => none

/-- The members of an object up to its closing brace, one at least. -/
def readMembers : Nat → List Char → Option (List (Option String × Json) × List Char)
  | 0, _ => none
  | steps + 1, input =>
    match skipBlanks input with
    | '"' :: rest => do
      let (key, rest) ← readString rest
      match skipBlanks rest with
      | ':' :: rest =>
        let (value, rest) ← readValue steps rest
        match skipBlanks rest with
        | '\x7d' :: rest => return ([(key, value)], rest)
        | ',' :: rest =>
          let (members, rest) ← readMembers steps rest
          return ((key, value) :: members, rest)
        | _ => none
      | _ => none
    | _ => none

end

/-- The value of a text. -/
def read? (input : String) : Option Json :=
  match readValue (input.toList.length + 1) input.toList with
  | some (value, rest) => if (skipBlanks rest).isEmpty then some value else none
  | none => none

end RecordMapper.Json
