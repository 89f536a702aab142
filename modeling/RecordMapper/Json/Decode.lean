import RecordMapper.Json.Reader

/-!
# Data in JSON

* `Json.fields?`, `Json.looseFields?`: the values of the fields of a structure, from an object or
  from an array.
* `Json.variant?`: the name of one of several alternatives, and what comes with it.
* `Json.string?`, `Json.boolean?`, `Json.word?`, `Json.items?`: plain data.
-/

namespace RecordMapper.Json

/-- The content of a string. -/
def string? : Json → Option String
  | .text content => content
  | _ => none

/-- A truth value. -/
def boolean? : Json → Option Bool
  | .bool value => some value
  | _ => none

/-- A natural number of at most 64 bits. -/
def word? : Json → Option UInt64
  | .number value => do
    let n ← value.natural?
    if n < UInt64.size then some (UInt64.ofNat n) else none
  | _ => none

/-- The items of an array, each read in the same way. -/
def items? {α : Type} (read : Json → Option α) : Json → Option (List α)
  | .array items => items.mapM read
  | _ => none

/-! ## Structures -/

/-- The values of a name in an object. -/
def valuesOf (name : String) (members : List (Option String × Json)) : List Json :=
  (members.filter (·.1 == some name)).map (·.2)

/-- The value of a field that an object has to have once. -/
def field? (members : List (Option String × Json)) (name : String) : Option Json :=
  match valuesOf name members with
  | [value] => some value
  | _ => none

/-- The value of a field that an object may have once, or nothing if it is left out. -/
def optionalField? (members : List (Option String × Json)) (name : String) : Option (Option Json) :=
  match valuesOf name members with
  | [] => some none
  | [value] => some (some value)
  | _ => none

/-- The members of an object whose keys are texts. Their values may be anything. -/
def members? : Json → Option (List (Option String × Json))
  | .object members => if members.all (·.1.isSome) then some members else none
  | _ => none

/-- The values of the fields of a structure, in the order of their names. An object has each of them
once, in any order, among other members; an array has these values and no others. -/
def fields? (names : List String) : Json → Option (List Json)
  | .array items => if items.length = names.length then some items else none
  | value => do names.mapM (field? (← members? value))

/-- The values of the fields of a structure that need not have all of them. An object has each at
most once; an array has those of the first names and no others. -/
def looseFields? (names : List String) : Json → Option (List (Option Json))
  | .array items =>
    if items.length ≤ names.length then
      some ((List.range names.length).map fun position => items[position]?)
    else none
  | value => do names.mapM (optionalField? (← members? value))

/-! ## Alternatives -/

/-- The name of an alternative: a string by itself, or the only key of an object, whose value comes
with it. -/
def variant? : Json → Option (String × Option Json)
  | .text (some name) => some (name, none)
  | .object [(some name, value)] => some (name, some value)
  | _ => none

/-- An alternative with which nothing comes. -/
def plainVariant? (value : Json) : Option String :=
  match variant? value with
  | some (name, none) => some name
  | some (name, some .null) => some name
  | _ => none

end RecordMapper.Json
