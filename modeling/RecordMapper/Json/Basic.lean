import RecordMapper.Decimal
import RecordMapper.Text.Hex

/-!
# JSON values

* `Json`: a value of JSON, with members and items in the order of their writing.
* `Json.Number`: a number as an exact decimal, with a note of how it was written.
* `Json.render`: the text of a value, without blanks.
-/

namespace RecordMapper

namespace Json

/-- A number: `digits` times ten to the power of `scale`, or the negative of it. -/
structure Number where
  negative : Bool
  digits : Nat
  scale : Int
  /-- Whether the number was written without fraction and exponent. -/
  isPlain : Bool
deriving DecidableEq, Repr

namespace Number

/-- A natural number, written plainly. -/
def ofNat (n : Nat) : Number where
  negative := false
  digits := n
  scale := 0
  isPlain := true

/-- An integer, written plainly. -/
def ofInt : Int → Number
  | .ofNat n => ofNat n
  | .negSucc n => { ofNat (n + 1) with negative := true }

/-- The integer that a number was written as. A zero after a minus sign is none. -/
def integer? (number : Number) : Option Int :=
  if number.isPlain then
    if number.negative then
      if number.digits = 0 then none else some (-number.digits)
    else some number.digits
  else none

/-- The natural number that a number was written as. -/
def natural? (number : Number) : Option Nat :=
  if number.isPlain && !number.negative then some number.digits else none

/-- The text of a number. -/
def render (number : Number) : String :=
  (if number.negative then "-" else "") ++ Decimal.ofNat number.digits ++
    if number.isPlain then "" else "e" ++ Decimal.ofInt number.scale

end Number

end Json

/-- A value of JSON. The content of a string is missing where its escapes name one half of a
surrogate pair alone, which no text holds. -/
inductive Json where
  | null
  | bool (value : Bool)
  | number (value : Json.Number)
  | text (content : Option String)
  | array (items : List Json)
  | object (members : List (Option String × Json))

namespace Json

instance : Inhabited Json := ⟨.null⟩

/-- A string. -/
def str (content : String) : Json := .text (some content)

/-- A natural number. -/
def nat (n : Nat) : Json := .number (.ofNat n)

/-- An integer. -/
def int (n : Int) : Json := .number (.ofInt n)

/-- An object of named members. -/
def record (members : List (String × Json)) : Json :=
  .object (members.map fun member => (some member.1, member.2))

/-! ## Writing -/

/-- A character as it stands in a string. Quotes, backslashes and the characters below the space are
escaped, the usual ones by a letter. -/
def escape (c : Char) : List Char :=
  match c with
  | '"' => ['\\', '"']
  | '\\' => ['\\', '\\']
  | '\x08' => ['\\', 'b']
  | '\x0c' => ['\\', 'f']
  | '\n' => ['\\', 'n']
  | '\r' => ['\\', 'r']
  | '\t' => ['\\', 't']
  | c =>
    if c.toNat < 0x20 then
      ['\\', 'u', '0', '0', Text.hexDigit (c.toNat / 16), Text.hexDigit c.toNat]
    else [c]

/-- The text of a string. -/
def quote : Option String → String
  | some content => String.ofList ('"' :: content.toList.flatMap escape ++ ['"'])
  | none => "\"\\ud800\""

mutual

/-- The text of a value. -/
def render : Json → String
  | .null => "null"
  | .bool value => if value then "true" else "false"
  | .number value => value.render
  | .text content => quote content
  | .array items => "[" ++ ",".intercalate (renderItems items) ++ "]"
  | .object members => "\x7b" ++ ",".intercalate (renderMembers members) ++ "\x7d"

/-- The texts of the items of an array. -/
def renderItems : List Json → List String
  | [] => []
  | item :: rest => item.render :: renderItems rest

/-- The texts of the members of an object. -/
def renderMembers : List (Option String × Json) → List String
  | [] => []
  | member :: rest => renderMember member :: renderMembers rest

/-- The text of a member of an object. -/
def renderMember : Option String × Json → String
  | (key, value) => quote key ++ ":" ++ value.render

end

end Json

end RecordMapper
