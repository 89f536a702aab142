/-!
# TOML documents

* `Toml`: a value of a document.
* `Toml.isReadable`: whether all numbers in a value are ones.
* `Toml.Statement`: a line of a document that says something: a header or an assignment.
* `Toml.ofStatements?`: the table that the statements of a document make up together.

Each table remembers how it came about, because that decides what may still be added to it.
-/

namespace RecordMapper

/-- How a table came about. -/
inductive Toml.Origin where
  /-- It was written as a value, between braces. -/
  | inline
  /-- A header names a table in it. -/
  | implied
  /-- A header names it. -/
  | header
  /-- A key with dots names something in it. -/
  | dotted
deriving DecidableEq, Repr

/-- A value of a document. -/
inductive Toml where
  | text (content : String)
  /-- A whole number, or what has the form of one and spells none. -/
  | integer (value : Option Int)
  /-- A number with a fraction or an exponent. No setting is one, so nothing is known of it but
  whether it is within the bounds of such numbers. -/
  | real (isBounded : Bool)
  | bool (value : Bool)
  /-- A date, a time or both. No setting is one, so it is not known which. -/
  | moment
  | array (items : List Toml)
  /-- An array of tables that headers name. -/
  | tables (items : List (List (String × Toml)))
  | table (origin : Toml.Origin) (members : List (String × Toml))

namespace Toml

instance : Inhabited Toml := ⟨.bool false⟩

/-- The members of a table, in the order of their writing. -/
abbrev Members := List (String × Toml)

/-- A header or an assignment, with the keys that lead to what it names. -/
inductive Statement where
  /-- The table that the following assignments belong to. -/
  | table (path : List String) (key : String)
  /-- A new table at the end of an array that the following assignments belong to. -/
  | item (path : List String) (key : String)
  | assign (path : List String) (key : String) (value : Toml)

/-! ## Numbers -/

mutual

/-- Whether all numbers in a value are ones. -/
def isReadable : Toml → Bool
  | .integer value => value.isSome
  | .real isBounded => isBounded
  | .array items => areReadable items
  | .tables items => areReadableTables items
  | .table _ members => areReadableMembers members
  | _ => true

/-- Whether all numbers in some values are ones. -/
def areReadable : List Toml → Bool
  | [] => true
  | item :: rest => isReadable item && areReadable rest

/-- Whether all numbers in some tables are ones. -/
def areReadableTables : List (List (String × Toml)) → Bool
  | [] => true
  | members :: rest => areReadableMembers members && areReadableTables rest

/-- Whether all numbers in the members of a table are ones. -/
def areReadableMembers : List (String × Toml) → Bool
  | [] => true
  | (_, value) :: rest => isReadable value && areReadableMembers rest

end

/-! ## Members -/

/-- The value of a key. -/
def lookup? (members : Members) (key : String) : Option Toml :=
  (members.find? (·.1 == key)).map (·.2)

/-- Gives a key a value, in place of what it had before. -/
def put (members : Members) (key : String) (value : Toml) : Members :=
  match members with
  | [] => [(key, value)]
  | entry :: rest => if entry.1 == key then (key, value) :: rest else entry :: put rest key value

/-- Gives a value to a key that has none. -/
def add? (members : Members) (key : String) (value : Toml) : Option Members :=
  if (lookup? members key).isSome then none else some (put members key value)

/-! ## Ways through tables -/

/-- Changes the table that a path of a header leads to. Missing tables are implied; of an array of
tables it is the last one. -/
def atHeader? (change : Members → Option Members) : List String → Members → Option Members
  | [], members => change members
  | key :: path, members =>
    match lookup? members key with
    | none => do return put members key (.table .implied (← atHeader? change path []))
    | some (.table .inline _) => none
    | some (.table origin inner) => do
      return put members key (.table origin (← atHeader? change path inner))
    | some (.tables items) => do
      return put members key
        (.tables (items.dropLast ++ [← atHeader? change path (← items.getLast?)]))
    | some _ => none

/-- Changes the table that the dotted part of a key leads to. A table that a header names is not
extended in this way, and what the key leads to has to be there for such keys alone. -/
def atKey? (change : Members → Option Members) (isOpen : Bool) :
    List String → Members → Option Members
  | [], members => if isOpen then change members else none
  | key :: path, members =>
    match lookup? members key with
    | none => do return put members key (.table .dotted (← atKey? change true path []))
    | some (.table .inline _) => none
    | some (.table .header _) => none
    | some (.table origin inner) => do
      return put members key (.table origin (← atKey? change (origin == .dotted) path inner))
    | some (.tables items) => do
      return put members key
        (.tables (items.dropLast ++ [← atKey? change false path (← items.getLast?)]))
    | some _ => none

/-- Gives a value to a key with dots. -/
def assign? (members : Members) (path : List String) (key : String) (value : Toml) :
    Option Members :=
  atKey? (add? · key value) true path members

/-! ## Statements -/

/-- Makes a key name a table by a header. A table that was only implied becomes such a table. -/
def openTable? (key : String) (members : Members) : Option Members :=
  match lookup? members key with
  | none => some (put members key (.table .header []))
  | some (.table .implied inner) => some (put members key (.table .header inner))
  | some _ => none

/-- Adds a table to the array of tables of a key. -/
def openItem? (key : String) (members : Members) : Option Members :=
  match lookup? members key with
  | none => some (put members key (.tables [[]]))
  | some (.tables items) => some (put members key (.tables (items ++ [[]])))
  | some _ => none

/-- The table of a document after its statements, from that before them. The path leads to the table
that assignments belong to. -/
def extend? : List String → Members → List Statement → Option Members
  | _, members, [] => some members
  | _, members, .table path key :: rest => do
    extend? (path ++ [key]) (← atHeader? (openTable? key) path members) rest
  | _, members, .item path key :: rest => do
    extend? (path ++ [key]) (← atHeader? (openItem? key) path members) rest
  | current, members, .assign path key value :: rest => do
    extend? current (← atHeader? (assign? · path key value) current members) rest

/-- The table of a document. -/
def ofStatements? (statements : List Statement) : Option Members :=
  extend? [] [] statements

end Toml

end RecordMapper
