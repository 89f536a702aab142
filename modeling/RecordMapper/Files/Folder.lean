import RecordMapper.Files.Path

/-!
# Folders

* `Folder`: directories and files, and the working directory among them.
* `Folder.isDirectory`, `Folder.read?`: what a path leads to.
* `Folder.createDirectories`, `Folder.openFile`: what is made where nothing is.
* `Folder.listing`: the entries below the working directory in order.

A place is given by the names that lead to it from the root. A path begins at the root if it begins
with a slash, and else at the working directory. Above the root is the root.
-/

namespace RecordMapper

/-- A directory, or a file with its content. -/
inductive Folder.Entry (α : Type) where
  | directory
  | file (content : α)

/-- Directories and files, each by its place. Those that lead to the working directory are always
there. -/
structure Folder (α : Type) where
  entries : List (List String × Folder.Entry α) := []
  /-- The place of the working directory. -/
  home : List String := []

namespace Folder

variable {α : Type}

/-! ## Entries -/

/-- The entry of a place. The root and the working directory are directories, and so is what lies
between them. -/
def entry? (folder : Folder α) (place : List String) : Option (Entry α) :=
  if place <+: folder.home then some .directory
  else (folder.entries.find? (·.1 = place)).map (·.2)

/-- Adds an entry where there is none. -/
def add (folder : Folder α) (place : List String) (entry : Entry α) : Folder α :=
  { folder with entries := folder.entries ++ [(place, entry)] }

/-- Changes the content of a file, if there is one. -/
def modify (folder : Folder α) (place : List String) (change : α → α) : Folder α :=
  { folder with
    entries := folder.entries.map fun item =>
      match item with
      | (other, .file content) =>
        (other, .file (if other = place then change content else content))
      | item => item }

/-- Takes a file away, if there is one. -/
def erase (folder : Folder α) (place : List String) : Folder α :=
  { folder with
    entries := folder.entries.filter fun item =>
      match item with
      | (other, .file _) => other ≠ place
      | _ => true }

/-- The content of the file of a place. -/
def content? (folder : Folder α) (place : List String) : Option α :=
  match folder.entry? place with
  | some (.file content) => some content
  | _ => none

/-! ## Ways -/

/-- The directory that a step leads to from another one. -/
def enter? (folder : Folder α) (place : List String) : Path.Component → Option (List String)
  | .root => some []
  | .here => some place
  | .up => some place.dropLast
  | .name name =>
    match folder.entry? (place ++ [name]) with
    | some .directory => some (place ++ [name])
    | _ => none

/-- The directory that some steps lead to. -/
def walk? (folder : Folder α) (components : List Path.Component) : Option (List String) :=
  components.foldlM folder.enter? folder.home

/-- Whether a path leads to a directory. -/
def isDirectory (folder : Folder α) (path : Path) : Bool :=
  path.isLookedUp && (folder.walk? path.components).isSome

/-- The place of the file that a path names, whether or not there is one. Its directory exists. -/
def place? (folder : Folder α) (path : Path) : Option (List String) :=
  if path.isLookedUp then
    match path.fileName?, folder.walk? path.components.dropLast with
    | some name, some place => some (place ++ [name])
    | _, _ => none
  else none

/-- The content of the file that a path names. -/
def read? (folder : Folder α) (path : Path) : Option α :=
  (folder.place? path).bind folder.content?

/-! ## Making entries -/

/-- Takes a step, and makes a directory where nothing has its name. -/
def enterNew? (folder : Folder α) (place : List String) :
    Path.Component → Option (List String × Folder α)
  | .name name =>
    if (folder.entry? (place ++ [name])).isNone then
      if Path.isLongName name then none
      else some (place ++ [name], folder.add (place ++ [name]) .directory)
    else (folder.enter? place (.name name)).map (·, folder)
  | component => (folder.enter? place component).map (·, folder)

/-- Takes some steps, and makes the missing directories. The second part of the result is the folder
as far as it was made; the first part says whether the last step was reached. -/
def createAlong (folder : Folder α) (place : List String) : List Path.Component → Bool × Folder α
  | [] => (true, folder)
  | component :: rest =>
    match folder.enterNew? place component with
    | some (place, folder) => folder.createAlong place rest
    | none => (false, folder)

/-- Makes the directories of a path that are missing. The empty path needs none. -/
def createDirectories (folder : Folder α) (path : Path) : Bool × Folder α :=
  if path.text = "" then (true, folder)
  else if path.isLookedUp then folder.createAlong folder.home path.components
  else (false, folder)

/-- Makes a file with the given content where nothing is. The result is missing if there can be no
file: a directory is there, the one around it is missing, or a name is too long. -/
def ensureFile (folder : Folder α) (place : List String) (fresh : α) : Option (Folder α) :=
  match folder.entry? place, folder.entry? place.dropLast with
  | some (.file _), _ => some folder
  | none, some .directory =>
    if place.any Path.isLongName then none else some (folder.add place (.file fresh))
  | _, _ => none

/-- Opens the file of a path, which is made if it is missing. The result is its place. -/
def openFile (folder : Folder α) (path : Path) (fresh : α) : Option (List String × Folder α) := do
  let place ← folder.place? path
  return (place, ← folder.ensureFile place fresh)

/-! ## Listing -/

/-- The text of an entry: its names, and a slash after those of a directory. -/
def entryText : List String × Entry α → String
  | (place, .directory) => "/".intercalate place ++ "/"
  | (place, .file _) => "/".intercalate place

/-- The texts of the entries below the working directory, in order. -/
def listing (folder : Folder α) : List String :=
  ((folder.entries.filter (folder.home <+: ·.1)).map fun item =>
    entryText (item.1.drop folder.home.length, item.2)).mergeSort

end Folder

end RecordMapper
