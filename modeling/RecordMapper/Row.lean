/-!
# Rows

* `Row`: an answer of the store, which gives for each column a text or null.
-/

namespace RecordMapper

/-- A row of an answer. No two entries have the same name. -/
structure Row where
  entries : List (String × Option String) := []
deriving DecidableEq, Repr

namespace Row

/-- Puts an entry into a list, in place of that of the same name if there is one. -/
def put (name : String) (content : Option String) :
    List (String × Option String) → List (String × Option String)
  | [] => [(name, content)]
  | entry :: rest =>
    if entry.1 = name then (name, content) :: rest else entry :: put name content rest

/-- Gives a column a content, in place of what it had before. -/
def insert (row : Row) (name : String) (content : Option String) : Row :=
  ⟨put name content row.entries⟩

/-- The row of a list of columns. Of several with the same name the last one counts. -/
def ofList (entries : List (String × Option String)) : Row :=
  entries.foldl (fun row entry => row.insert entry.1 entry.2) {}

/-- The content of a column, if the row has it. -/
def get? (row : Row) (name : String) : Option (Option String) :=
  (row.entries.find? (·.1 == name)).map (·.2)

def contains (row : Row) (name : String) : Bool :=
  (row.get? name).isSome

def size (row : Row) : Nat :=
  row.entries.length

end Row

end RecordMapper
