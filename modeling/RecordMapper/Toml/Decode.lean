import RecordMapper.Toml

/-!
# Data in TOML

* `Toml.fields?`: the values of the fields of a section, which need not have all of them.
* `Toml.variant?`: the name of one of several alternatives with which nothing comes.
* `Toml.word?`, `Toml.string?`: plain data.
-/

namespace RecordMapper.Toml

/-- The content of a string. -/
def string? : Toml → Option String
  | .text content => some content
  | _ => none

/-- A natural number of at most 64 bits. -/
def word? : Toml → Option UInt64
  | .integer (some (.ofNat n)) => if n < UInt64.size then some (UInt64.ofNat n) else none
  | _ => none

/-- Whether a value has no parts. -/
def isHollow : Toml → Bool
  | .array [] => true
  | .table _ [] => true
  | _ => false

/-- The name of an alternative: a string, or the only key of a table, whose value has no parts. -/
def variant? : Toml → Option String
  | .text name => some name
  | .table _ [(name, value)] => if isHollow value then some name else none
  | _ => none

/-- The items of an array. -/
def items? : Toml → Option (List Toml)
  | .array items => some items
  | .tables items => some (items.map (.table .header))
  | _ => none

/-- The values of the fields of a section, in the order of their names. A table has them by their
names, among others, whose numbers have to be ones. An array has those of the first names, and
others after them, at which nobody looks. A moment has no fields but passes for a table. -/
def fields? (names : List String) : Toml → Option (List (Option Toml))
  | .table _ members =>
    if areReadableMembers (members.filter fun member => !names.contains member.1) then
      some (names.map (lookup? members))
    else none
  | .moment => some (names.map fun _ => none)
  | value => do
    let items ← value.items?
    return (List.range names.length).map fun position => items[position]?

end RecordMapper.Toml
