import RecordMapper.Toml.Number

/-!
# Dates and times in TOML

* `Toml.isMoment`: whether a word spells a date, a time, or a date with a time. Only then may the
  time have an offset from the time of Greenwich.
-/

namespace RecordMapper.Toml

/-! ## Parts -/

/-- The number of the two digits at the start of a text, which has a greatest value, and what
follows them. -/
def readPair? (most : Nat) : List Char → Option (Nat × List Char)
  | a :: b :: rest => do
    let n ← valueIn? 10 [a, b]
    if n ≤ most then some (n, rest) else none
  | _ => none

/-- What follows a character that has to come next. -/
def skipChar? (c : Char) : List Char → Option (List Char)
  | next :: rest => if next = c then some rest else none
  | [] => none

/-! ## Dates -/

/-- Whether a year has a day more than others. -/
def isLeapYear (year : Nat) : Bool :=
  year % 4 == 0 && (year % 100 != 0 || year % 400 == 0)

/-- The number of days of a month. -/
def monthLength (year month : Nat) : Nat :=
  if month = 2 then if isLeapYear year then 29 else 28
  else if month ∈ [4, 6, 9, 11] then 30
  else 31

/-- What follows a date. -/
def skipDate? (input : List Char) : Option (List Char) := do
  let (century, rest) ← readPair? 99 input
  let (year, rest) ← readPair? 99 rest
  let (month, rest) ← readPair? 12 (← skipChar? '-' rest)
  let (day, rest) ← readPair? (monthLength (100 * century + year) month) (← skipChar? '-' rest)
  if month = 0 ∨ day = 0 then none else some rest

/-! ## Times -/

/-- What follows hours and minutes. -/
def skipMinutes? (input : List Char) : Option (List Char) := do
  let (_, rest) ← readPair? 23 input
  let (_, rest) ← readPair? 59 (← skipChar? ':' rest)
  return rest

/-- What follows the fraction of a second, if there is one. -/
def skipSplitSecond? : List Char → Option (List Char)
  | '.' :: digits =>
    if digits.head?.any Char.isDigit then some (digits.dropWhile Char.isDigit) else none
  | input => some input

/-- What follows a time. It may go without seconds; with them there is room for a leap second. -/
def skipTime? (input : List Char) : Option (List Char) := do
  match ← skipMinutes? input with
  | ':' :: rest =>
    let (_, rest) ← readPair? 60 rest
    skipSplitSecond? rest
  | rest => return rest

/-- What follows an offset, if there is one. -/
def skipOffset? : List Char → Option (List Char)
  | 'Z' :: rest => some rest
  | 'z' :: rest => some rest
  | '+' :: rest => skipMinutes? rest
  | '-' :: rest => skipMinutes? rest
  | input => some input

/-! ## Words -/

/-- What follows a date and the time after it, if there is one. -/
def skipDateTime? (input : List Char) : Option (List Char) := do
  match ← skipDate? input with
  | 'T' :: rest => (skipTime? rest).bind skipOffset?
  | 't' :: rest => (skipTime? rest).bind skipOffset?
  | ' ' :: rest => (skipTime? rest).bind skipOffset?
  | rest => return rest

/-- Whether a word spells a date, a time or both. -/
def isMoment (word : List Char) : Bool :=
  skipTime? word == some [] || skipDateTime? word == some []

end RecordMapper.Toml
