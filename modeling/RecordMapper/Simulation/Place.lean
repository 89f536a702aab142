import RecordMapper.Files.Content
import RecordMapper.Simulation.Address

/-!
# Places of simulated databases

* `Simulation.filePlace?`: where the file of a name is.
* `Simulation.locate?`: the file of an address, made if that is asked for.
* `Simulation.zeroPosition?`: where a text ends for the system, if it goes on after that.
-/

namespace RecordMapper.Simulation

/-- The greatest number of bytes of the whole path of a file that the engine uses. -/
def maxPathLength : Nat := 512

/-- The ending of the longest path that the engine may have to make of that of a database. -/
def longestEnding : String := "-journal"

/-- Adds a step to the names that lead to a file. -/
def addStep (place : List String) : Path.Component → List String
  | .root => []
  | .here => place
  | .up => place.dropLast
  | .name name => place ++ [name]

/-- The text of a whole path. -/
def pathText (place : List String) : String :=
  "/" ++ "/".intercalate place

/-- The place of the file of a database. Unlike that of any other file it is found from the text of
the path alone, so slashes at the end are passed over. -/
def filePlace? (home : List String) (path : Path) : Option (List String) :=
  let place := path.components.foldl addStep home
  if (pathText place ++ longestEnding).utf8ByteSize ≤ maxPathLength then some place else none

/-- The number of bytes before the first zero of a text, if there is one. -/
def zeroPosition? (text : String) : Option Nat :=
  if text.toList.contains '\x00' then
    some (String.ofList (text.toList.takeWhile (· ≠ '\x00'))).utf8ByteSize
  else none

/-- The folder with the file of an address, which is made if it is missing and may be. -/
def locate? (address : Address) (place : List String) (folder : Folder Content) :
    Option (Folder Content) :=
  match address.access with
  | .readOnly => if (folder.entry? place).isSome then some folder else none
  | .readWrite => if (folder.content? place).isSome then some folder else none
  | _ => folder.ensureFile place .empty

end RecordMapper.Simulation
