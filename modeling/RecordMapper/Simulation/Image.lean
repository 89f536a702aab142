import RecordMapper.Database.Engine

/-!
# What a simulated database holds

* `Simulation.EngineFault`: why the engine refuses something.
* `Simulation.Image`: the table of a database.
* `Simulation.Statement`: what a database is asked.
* `Simulation.Image.run`: what it answers, and what it holds then.
-/

namespace RecordMapper.Simulation

open Database (Answer Datum)

/-- Why the engine refuses something. -/
inductive EngineFault where
  | noTable
  | tableExists
  | notDatabase
  /-- A file cannot be opened. That of the database itself is named by its path. -/
  | cannotOpen (path : Option Path)
  /-- Another connection uses the log. -/
  | locked
  | readOnly
  /-- The system does not read a file, or not lock it. -/
  | inputOutput
deriving DecidableEq, Repr

/-- Why the engine refuses, in its own words. -/
def EngineFault.detail : EngineFault → String
  | .noTable => "no such table: t"
  | .tableExists => "table t already exists in CREATE TABLE t (v INTEGER) at offset 13"
  | .notDatabase => "file is not a database"
  | .cannotOpen none => "unable to open database file"
  | .cannotOpen (some path) => s!"unable to open database file: {path.text}"
  | .locked => "database is locked"
  | .readOnly => "attempt to write a readonly database"
  | .inputOutput => "disk I/O error"

/-- What a database holds: the numbers in the table `t`, if the table was created. -/
structure Image where
  numbers? : Option (List Int64) := none
deriving DecidableEq, Repr

/-- What a database is asked. -/
inductive Statement where
  /-- To create the table `t` with the column `v`. -/
  | createTable
  | insert (number : Int64)
  | selectAll
  /-- To answer the given values as one row. -/
  | selectValues (columns : List (String × Datum))

namespace Image

/-- The numbers of the table, which has to be created. -/
def numbers (image : Image) : Except EngineFault (List Int64) :=
  match image.numbers? with
  | some numbers => .ok numbers
  | none => .error .noTable

/-- Answers a statement. The second part of the result is what the database holds then. -/
def run (image : Image) : Statement → Except EngineFault (Answer × Image)
  | .createTable =>
    match image.numbers? with
    | none => .ok ({ columns := [], rows := [] }, ⟨some []⟩)
    | some _ => .error .tableExists
  | .insert number => do
    return ({ columns := [], rows := [] }, ⟨some ((← image.numbers) ++ [number])⟩)
  | .selectAll => do
    return ({ columns := ["v"], rows := (← image.numbers).map ([.integer ·]) }, image)
  | .selectValues columns =>
    .ok ({ columns := columns.map (·.1), rows := [columns.map (·.2)] }, image)

end Image

end RecordMapper.Simulation
