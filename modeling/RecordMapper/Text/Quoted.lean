/-!
# Text between quotes

A quote inside the text is written twice, and so is the escape character of the rule, if it has one.

* `QuoteRule.write`: a text between quotes.
* `QuoteRule.read`: the text between quotes at the start of a longer text, and what follows it.
-/

namespace RecordMapper.Text

/-- How text stands between quotes. A reader takes the character after the escape character as it
is. -/
structure QuoteRule where
  quote : Char
  escape : Option Char
deriving DecidableEq, Repr

namespace QuoteRule

/-- Whether a character is written twice. -/
def doubles (rule : QuoteRule) (c : Char) : Bool :=
  c == rule.quote || rule.escape == some c

/-- The characters of a text as they stand between the quotes. -/
def encode (rule : QuoteRule) : List Char → List Char
  | [] => []
  | c :: rest => if rule.doubles c then c :: c :: rule.encode rest else c :: rule.encode rest

/-- A text between quotes. -/
def write (rule : QuoteRule) (text : List Char) : List Char :=
  rule.quote :: rule.encode text ++ [rule.quote]

/-! ## Reading -/

/-- The text up to the closing quote, and what follows that quote. -/
def decode (rule : QuoteRule) : List Char → Option (List Char × List Char)
  | [] => none
  | [c] => if c = rule.quote then some ([], []) else none
  | c :: d :: rest =>
    if rule.escape = some c then (rule.decode rest).map fun r => (d :: r.1, r.2)
    else if c = rule.quote then
      if d = rule.quote then (rule.decode rest).map fun r => (d :: r.1, r.2)
      else some ([], d :: rest)
    else (rule.decode (d :: rest)).map fun r => (c :: r.1, r.2)

/-- The text between quotes at the start of a longer one, and what follows it. -/
def read (rule : QuoteRule) : List Char → Option (List Char × List Char)
  | [] => none
  | c :: rest => if c = rule.quote then rule.decode rest else none

end QuoteRule

end RecordMapper.Text
