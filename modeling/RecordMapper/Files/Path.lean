import RecordMapper.Text.Split

/-!
# Paths

* `Path`: the text that names a file or a directory.
* `Path.components`: the steps that a path takes. Empty segments and inner dots are none.
* `Path.parent?`: the path without its last step.
* `Path.isTooLong`, `Path.hasLongComponent`: whether a path keeps to limits.
* `Path.isLookedUp`: whether the system takes a path.
-/

namespace RecordMapper

/-- The text that names a file or a directory. -/
structure Path where
  text : String
deriving DecidableEq, Repr

namespace Path

/-! ## Components -/

/-- A step of a path. -/
inductive Component where
  /-- To the root, where a path begins with a slash. -/
  | root
  /-- To the working directory, where a path begins with a dot. -/
  | here
  /-- To the directory above. -/
  | up
  /-- To the entry of a name. -/
  | name (text : String)
deriving DecidableEq, Repr

/-- The text of a step. -/
def Component.text : Component → String
  | .root => "/"
  | .here => "."
  | .up => ".."
  | .name text => text

/-- The texts between slashes. -/
def segments (path : Path) : List String :=
  (Text.split '/' path.text.toList).map String.ofList

/-- The step of a segment after the first one, if it is one. -/
def innerStep? (segment : String) : Option Component :=
  if segment = "" ∨ segment = "." then none
  else if segment = ".." then some .up
  else some (.name segment)

/-- The step of the first segment, if it is one. -/
def firstStep? (isOnly : Bool) (segment : String) : Option Component :=
  if segment = "" then if isOnly then none else some .root
  else if segment = "." then some .here
  else innerStep? segment

/-- The segments of a path, each with its step if it is one. -/
def steps (path : Path) : List (String × Option Component) :=
  match path.segments with
  | [] => []
  | first :: rest =>
    (first, firstStep? rest.isEmpty first) :: rest.map fun segment => (segment, innerStep? segment)

/-- The steps that a path takes. -/
def components (path : Path) : List Component :=
  path.steps.filterMap (·.2)

/-! ## Parents -/

/-- The path of some segments. -/
def ofSegments : List String → Path
  | [""] => ⟨"/"⟩
  | segments => ⟨"/".intercalate segments⟩

/-- The path up to before the last step, if there is a step and it does not lead to the root. -/
def parent? (path : Path) : Option Path :=
  match path.steps.reverse.dropWhile (·.2.isNone) with
  | [] => none
  | (_, some .root) :: _ => none
  | _ :: before => some (ofSegments ((before.dropWhile (·.2.isNone)).reverse.map (·.1)))

/-- The name after the last slash, if it can be that of a file. -/
def fileName? (path : Path) : Option String :=
  match path.segments.getLast? with
  | some segment =>
    match innerStep? segment with
    | some (.name name) => some name
    | _ => none
  | none => none

/-! ## Limits -/

/-- The greatest numbers of bytes that are allowed. -/
structure Limits where
  /-- Of a path. -/
  length : Nat
  /-- Of each of its components. -/
  componentLength : Nat
deriving DecidableEq, Repr

/-- Whether a path has too many bytes. -/
def isTooLong (path : Path) (limits : Limits) : Bool :=
  limits.length < path.text.utf8ByteSize

/-- Whether a component has too many bytes. -/
def hasLongComponent (path : Path) (limits : Limits) : Bool :=
  path.components.any fun component => limits.componentLength < component.text.utf8ByteSize

/-- The greatest number of bytes of a path for the system, with the zero that ends it. -/
def systemLength : Nat := 4096

/-- The greatest number of bytes of a name for the system. -/
def maxNameLength : Nat := 255

/-- Whether a text has too many bytes for a name. -/
def isLongName (text : String) : Bool :=
  maxNameLength < text.utf8ByteSize

/-- Whether the system looks a path up at all: it is not empty, it has room for the zero that ends
it, and no zero ends it early. -/
def isLookedUp (path : Path) : Bool :=
  path.text ≠ "" && path.text.utf8ByteSize < systemLength && !path.text.toList.contains '\x00'

end Path

end RecordMapper
