import RecordMapper.Database.Datum
import RecordMapper.Files.Path
import RecordMapper.Outcome

/-!
# Engines

* `Database.Answer`: what a connection answers to a query.
* `Database.Engine`: what an engine and its connections are asked.
* `Database.Engine.executeAll`: several statements, one after the other.
* `Database.Engine.TakesTimes`: what is known of the times that a connection can be told to wait.
-/

namespace RecordMapper.Database

/-- What a connection answers to a query: the names of the columns, and the rows as far as they were
got. If there are to be more, the engine says why they cannot be got. -/
structure Answer where
  columns : List String
  rows : List (List Datum)
  refusal : Option String := none

/-- What an engine and its connections are asked, with what the system is like before and after it.
Where the engine refuses, it says so in words of its own. -/
structure Engine (σ κ : Type) where
  /-- Connects to the file of a path, which is made if it is missing. -/
  connect : Path → σ → Except String κ × σ
  /-- Connects to a new database in memory. -/
  connectInMemory : σ → Except String κ × σ
  execute : κ → String → σ → Except String Unit × σ
  query : κ → String → σ → Except String Answer × σ
  /-- Tells a connection how many milliseconds to wait for others. -/
  setBusyTimeout : κ → Nat → σ → Outcome String Unit × σ
  /-- Closes a connection. Even if this is refused, the connection is gone. -/
  close : κ → σ → Except String Unit × σ
  /-- Gives a connection up. -/
  drop : κ → σ → σ

namespace Engine

variable {σ κ : Type}

/-- Executes several statements, up to the first one that is refused. -/
def executeAll (engine : Engine σ κ) (connection : κ) : List String → σ → Except String Unit × σ
  | [], state => (.ok (), state)
  | sql :: rest, state =>
    match engine.execute connection sql state with
    | (.error words, state) => (.error words, state)
    | (.ok (), state) => engine.executeAll connection rest state

/-- Sets a connection up by several statements. If one of them is refused, it is given up. -/
def setUp (engine : Engine σ κ) (connection : κ) (statements : List String) (state : σ) :
    Except String κ × σ :=
  match engine.executeAll connection statements state with
  | (.error words, state) => (.error words, engine.drop connection state)
  | (.ok (), state) => (.ok connection, state)

/-- The longest time that a connection can be told to wait, in milliseconds. -/
def maxBusyTimeout : Nat := (1 <<< 31) - 1

/-- To tell a connection how long to wait breaks down just if the time is too long. -/
def TakesTimes (engine : Engine σ κ) : Prop :=
  ∀ connection time state,
    (engine.setBusyTimeout connection time state).1 = .crashed ↔ maxBusyTimeout < time

end Engine

end RecordMapper.Database
