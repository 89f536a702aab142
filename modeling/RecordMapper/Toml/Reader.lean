import RecordMapper.Toml.Moment

/-!
# Reading TOML

* `Toml.read?`: the table of a text. The grammar is that of TOML with two limits: on the dots in a
  key and on the brackets around a value.

A reader of a part of a text takes the characters that are left, and gives what it read with the
characters after it.
-/

namespace RecordMapper.Toml

/-! ## Blanks and line ends -/

/-- Whether a character is a blank within a line. -/
def isBlank (c : Char) : Bool :=
  c == ' ' || c == '\t'

/-- Whether a character may stand in comments and between quotes: it is no control character but the
tab. -/
def isPlain (c : Char) : Bool :=
  c == '\t' || (0x20 ≤ c.toNat && c.toNat ≠ 0x7f)

/-- What follows the blanks at the start of a text. -/
def skipBlanks (input : List Char) : List Char :=
  input.dropWhile isBlank

/-- What follows a comment, if there is one. -/
def skipComment : List Char → List Char
  | '#' :: rest => rest.dropWhile isPlain
  | input => input

/-- What follows a line end, if there is one. -/
def skipLineEnd? : List Char → Option (List Char)
  | '\n' :: rest => some rest
  | '\r' :: '\n' :: rest => some rest
  | _ => none

/-- What follows blanks, comments and line ends, from within a comment or from outside. -/
def skipGapFrom (isInComment : Bool) : List Char → List Char
  | [] => []
  | '\n' :: rest => skipGapFrom false rest
  | '\r' :: '\n' :: rest => skipGapFrom false rest
  | c :: rest =>
    if isInComment then if isPlain c then skipGapFrom true rest else c :: rest
    else if isBlank c then skipGapFrom false rest
    else if c = '#' then skipGapFrom true rest
    else c :: rest

/-- What follows blanks, comments and line ends. -/
def skipGap (input : List Char) : List Char :=
  skipGapFrom false input

/-! ## Strings -/

/-- The character whose number has the given hexadecimal digits. -/
def charOfHex? (digits : List Char) : Option Char := do
  let n ← Text.hexNumber? digits
  if n.isValidChar then some (Char.ofNat n) else none

/-- The character of an escape by a letter. -/
def unescape? : Char → Option Char
  | '"' => some '"'
  | '\\' => some '\\'
  | 'b' => some '\x08'
  | 'e' => some '\x1b'
  | 'f' => some '\x0c'
  | 'n' => some '\n'
  | 'r' => some '\r'
  | 't' => some '\t'
  | _ => none

/-- Puts a character before what was read, if there is one. -/
def prepend? (c : Option Char) (read : Option (List Char × List Char)) :
    Option (List Char × List Char) := do
  let c ← c
  let (content, rest) ← read
  return (c :: content, rest)

/-- The rest of a string between quotes, in which a backslash begins an escape. -/
def readBasic : List Char → Option (List Char × List Char)
  | [] => none
  | '"' :: rest => some ([], rest)
  | '\\' :: 'x' :: a :: b :: rest => prepend? (charOfHex? [a, b]) (readBasic rest)
  | '\\' :: 'u' :: a :: b :: c :: d :: rest => prepend? (charOfHex? [a, b, c, d]) (readBasic rest)
  | '\\' :: 'U' :: a :: b :: c :: d :: e :: f :: g :: h :: rest =>
    prepend? (charOfHex? [a, b, c, d, e, f, g, h]) (readBasic rest)
  | '\\' :: c :: rest => prepend? (unescape? c) (readBasic rest)
  | c :: rest => if isPlain c then prepend? (some c) (readBasic rest) else none

/-- The rest of a string between apostrophes, in which nothing is escaped. -/
def readLiteral : List Char → Option (List Char × List Char)
  | [] => none
  | '\'' :: rest => some ([], rest)
  | c :: rest => if isPlain c then prepend? (some c) (readLiteral rest) else none

/-- Whether nothing but blanks is left of a line. -/
def endsLine (input : List Char) : Bool :=
  (skipLineEnd? (skipBlanks input)).isSome

/-- The rest of a string between three quotes. It may have several lines. A backslash at the end of
a line takes away all blanks and line ends after it, which is what `isFolding` says. Up to two
quotes may stand right before the last three. -/
def readLongBasic (isFolding : Bool) : List Char → Option (List Char × List Char)
  | [] => none
  | '"' :: '"' :: '"' :: '"' :: '"' :: rest => some (['"', '"'], rest)
  | '"' :: '"' :: '"' :: '"' :: rest => some (['"'], rest)
  | '"' :: '"' :: '"' :: rest => some ([], rest)
  | '\\' :: 'x' :: a :: b :: rest => prepend? (charOfHex? [a, b]) (readLongBasic false rest)
  | '\\' :: 'u' :: a :: b :: c :: d :: rest =>
    prepend? (charOfHex? [a, b, c, d]) (readLongBasic false rest)
  | '\\' :: 'U' :: a :: b :: c :: d :: e :: f :: g :: h :: rest =>
    prepend? (charOfHex? [a, b, c, d, e, f, g, h]) (readLongBasic false rest)
  | '\\' :: c :: rest =>
    if endsLine (c :: rest) then readLongBasic true rest
    else prepend? (unescape? c) (readLongBasic false rest)
  | '\r' :: '\n' :: rest =>
    if isFolding then readLongBasic true rest
    else prepend? (some '\r') (prepend? (some '\n') (readLongBasic false rest))
  | c :: rest =>
    if isFolding && (isBlank c || c == '\n') then readLongBasic true rest
    else if isPlain c || c == '\n' then prepend? (some c) (readLongBasic false rest)
    else none

/-- The rest of a string between three apostrophes. It may have several lines. Up to two apostrophes
may stand right before the last three. -/
def readLongLiteral : List Char → Option (List Char × List Char)
  | [] => none
  | '\'' :: '\'' :: '\'' :: '\'' :: '\'' :: rest => some (['\'', '\''], rest)
  | '\'' :: '\'' :: '\'' :: '\'' :: rest => some (['\''], rest)
  | '\'' :: '\'' :: '\'' :: rest => some ([], rest)
  | '\r' :: '\n' :: rest => prepend? (some '\r') (prepend? (some '\n') (readLongLiteral rest))
  | c :: rest =>
    if isPlain c || c == '\n' then prepend? (some c) (readLongLiteral rest) else none

/-- What follows the line end that may come right after three opening quotes. -/
def skipFirstLineEnd (input : List Char) : List Char :=
  (skipLineEnd? input).getD input

/-! ## Keys -/

/-- Whether a character may stand in a key without quotes. -/
def isKeyChar (c : Char) : Bool :=
  c.isAlphanum || c == '_' || c == '-'

/-- A key without dots. -/
def readSimpleKey : List Char → Option (List Char × List Char)
  | '"' :: rest => readBasic rest
  | '\'' :: rest => readLiteral rest
  | input =>
    match input.span isKeyChar with
    | ([], _) => none
    | (key, rest) => some (key, rest)

/-- Keys with dots between them, at most of a number, and what follows them and the blanks after
them. -/
def readKeys : Nat → List Char → Option (List String × List Char)
  | 0, _ => none
  | limit + 1, input => do
    let (key, rest) ← readSimpleKey (skipBlanks input)
    match skipBlanks rest with
    | '.' :: rest =>
      let (keys, rest) ← readKeys limit rest
      return (String.ofList key :: keys, rest)
    | rest => return ([String.ofList key], rest)

/-- The greatest number of keys with dots between them. -/
def maxKeys : Nat := 80

/-- A key with dots: the keys before the last one, and the last one. -/
def readKey (input : List Char) : Option ((List String × String) × List Char) := do
  let (keys, rest) ← readKeys maxKeys input
  return ((keys.dropLast, ← keys.getLast?), rest)

/-! ## Words -/

/-- Whether a character ends a word. -/
def endsWord (c : Char) : Bool :=
  ['=', ',', '[', ']', '\x7b', '\x7d', ' ', '\t', '#', '\r', '\n'].contains c

/-- The word at the start of a text, and what follows it. After a blank the time of a date may
stand, which belongs to the same word. -/
def readWord (input : List Char) : List Char × List Char :=
  let (word, rest) := input.span (!endsWord ·)
  match rest with
  | ' ' :: rest =>
    if rest.head?.any Char.isDigit then
      let (time, rest) := rest.span (!endsWord ·)
      (word ++ ' ' :: time, rest)
    else (word, ' ' :: rest)
  | rest => (word, rest)

/-- A value without brackets and quotes. A blank in it stands between a date and a time. -/
def scalar? (word : List Char) : Option Toml :=
  if word = "true".toList then some (.bool true)
  else if word = "false".toList then some (.bool false)
  else if isMoment word then some .moment
  else if word.contains ' ' then none
  else number? word

/-! ## Values -/

/-- A string as a value. -/
def textOf (read : List Char × List Char) : Toml × List Char :=
  (.text (String.ofList read.1), read.2)

/-- The greatest number of arrays and tables around a value that stand in one another. -/
def maxDepth : Nat := 80

mutual

/-- The value at the start of a text, which may have arrays and tables in one another down to a
depth. Each step into a value takes a character at least, so the length of the text bounds their
number. -/
def readValue : Nat → Nat → List Char → Option (Toml × List Char)
  | 0, _, _ => none
  | _, _, '"' :: '"' :: '"' :: rest => (readLongBasic false (skipFirstLineEnd rest)).map textOf
  | _, _, '"' :: rest => (readBasic rest).map textOf
  | _, _, '\'' :: '\'' :: '\'' :: rest => (readLongLiteral (skipFirstLineEnd rest)).map textOf
  | _, _, '\'' :: rest => (readLiteral rest).map textOf
  | steps + 1, depth + 1, '[' :: rest => do
    let (items, rest) ← readItems steps depth rest
    return (.array items, rest)
  | steps + 1, depth + 1, '\x7b' :: rest => do
    let (statements, rest) ← readMembers steps depth rest
    return (.table .inline (← ofStatements? statements), rest)
  | _, _, input =>
    let (word, rest) := readWord input
    (scalar? word).map (·, rest)

/-- The items of an array up to its closing bracket. -/
def readItems : Nat → Nat → List Char → Option (List Toml × List Char)
  | 0, _, _ => none
  | steps + 1, depth, input =>
    match skipGap input with
    | ']' :: rest => some ([], rest)
    | input => do
      let (item, rest) ← readValue steps depth input
      match skipGap rest with
      | ',' :: rest =>
        let (items, rest) ← readItems steps depth rest
        return (item :: items, rest)
      | ']' :: rest => return ([item], rest)
      | _ => none

/-- The members of a table between braces up to its closing brace. -/
def readMembers : Nat → Nat → List Char → Option (List Statement × List Char)
  | 0, _, _ => none
  | steps + 1, depth, input =>
    match skipGap input with
    | '\x7d' :: rest => some ([], rest)
    | input => do
      let ((path, key), rest) ← readKey input
      match skipGap rest with
      | '=' :: rest =>
        let (value, rest) ← readValue steps depth (skipGap rest)
        match skipGap rest with
        | ',' :: rest =>
          let (members, rest) ← readMembers steps depth rest
          return (.assign path key value :: members, rest)
        | '\x7d' :: rest => return ([.assign path key value], rest)
        | _ => none
      | _ => none

end

/-! ## Documents -/

/-- A header or an assignment. The bound is that of `readValue`. -/
def readStatement (steps : Nat) : List Char → Option (Statement × List Char)
  | '[' :: '[' :: rest => do
    match ← readKey rest with
    | ((path, key), ']' :: ']' :: rest) => return (.item path key, rest)
    | _ => none
  | '[' :: rest => do
    match ← readKey rest with
    | ((path, key), ']' :: rest) => return (.table path key, rest)
    | _ => none
  | input => do
    match ← readKey input with
    | ((path, key), '=' :: rest) =>
      let (value, rest) ← readValue steps maxDepth (skipBlanks rest)
      return (.assign path key value, rest)
    | _ => none

/-- The statements of a text, each with a line for itself. Each takes a character at least, so the
length of the text bounds their number. -/
def readStatements : Nat → List Char → Option (List Statement)
  | 0, _ => none
  | steps + 1, input =>
    match skipGap input with
    | [] => some []
    | input => do
      let (statement, rest) ← readStatement (steps + 1) input
      match skipComment (skipBlanks rest) with
      | [] => return [statement]
      | rest => return statement :: (← readStatements steps (← skipLineEnd? rest))

/-- The table of a text. A byte order mark at its start is passed over. -/
def read? (input : String) : Option Toml := do
  let input := match input.toList with
    | '\ufeff' :: rest => rest
    | input => input
  return .table .header (← ofStatements? (← readStatements (input.length + 1) input))

end RecordMapper.Toml
