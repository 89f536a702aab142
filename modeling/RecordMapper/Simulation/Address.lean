import RecordMapper.Text.Hex
import RecordMapper.Text.Split

/-!
# Addresses of simulated databases

* `Simulation.Address`: which database is meant, and how it is to be opened.
* `Simulation.Address.ofText`: the address of a text. If it begins with `file:` it has escapes and
  options; else it is a name as it stands.
* `Simulation.Address.medium`: where the database of an address is.
-/

namespace RecordMapper.Simulation

/-! ## Options -/

/-- What may be done with a database, or that it is in memory. -/
inductive Access where
  | readOnly
  | readWrite
  /-- It may be changed, and its file is made if it is missing. -/
  | create
  | memory
deriving DecidableEq, Repr

namespace Access

/-- The access of a name. -/
def ofName? : String → Option Access
  | "ro" => some .readOnly
  | "rw" => some .readWrite
  | "rwc" => some .create
  | "memory" => some .memory
  | _ => none

/-- How much an access to a file allows. -/
def rank : Access → Nat
  | .memory => 0
  | .readOnly => 1
  | .readWrite => 2
  | .create => 3

/-- Whether an access may take the place of another one: it must not allow more, unless one of the
two is to memory. -/
def narrows (access before : Access) : Bool :=
  before == .memory || access.rank ≤ before.rank

end Access

/-- How a database reaches its file. -/
inductive Layer where
  /-- With locks, and with an index beside each log. -/
  | locking
  /-- With a lock that is kept, so that the index of a log is nobody else's and in memory. -/
  | exclusive
  /-- With no locks on parts of the file, so that there can be no log. -/
  | plain
  /-- Not at all: the file is in memory. -/
  | memory
deriving DecidableEq, Repr

/-- The layer of a name. -/
def Layer.ofName? : String → Option Layer
  | "unix" => some .locking
  | "unix-excl" => some .exclusive
  | "unix-none" => some .plain
  | "unix-dotfile" => some .plain
  | "memdb" => some .memory
  | _ => none

/-- What is wrong with an address. -/
inductive AddressFault where
  | authority (text : String)
  | noAccess (name : String)
  | notAllowed (name : String)
  | noCache (name : String)
  | noLayer (name : String)
deriving DecidableEq, Repr

/-- What is wrong with an address, in words. -/
def AddressFault.detail : AddressFault → String
  | .authority text => s!"invalid uri authority: {text}"
  | .noAccess name => s!"no such access mode: {name}"
  | .notAllowed name => s!"access mode not allowed: {name}"
  | .noCache name => s!"no such cache mode: {name}"
  | .noLayer name => s!"no such vfs: {name}"

/-! ## Addresses -/

/-- Which database is meant, and how it is to be opened. -/
structure Address where
  name : String
  access : Access := .create
  /-- Whether it is shared with the other databases of its name that are. -/
  isShared : Bool := false
  layer : Layer := .locking
  /-- Whether its file is used without any locks. -/
  isUnlocked : Bool := false
  /-- Whether its file is taken to be one that nobody changes. -/
  isFrozen : Bool := false
deriving DecidableEq, Repr

/-- Where a database is. -/
inductive Medium where
  | memory
  /-- In a file without a name, which is gone when the database is closed. -/
  | unnamedFile
  /-- In memory, in place of a file. -/
  | memoryFile
  | file
deriving DecidableEq, Repr

namespace Address

/-- Where the database of an address is. -/
def medium (address : Address) : Medium :=
  if address.access = .memory ∨ address.name = ":memory:" then .memory
  else if address.name = "" then .unnamedFile
  else if address.layer = .memory then .memoryFile
  else .file

/-- The name by which databases in memory are shared, if they are. -/
def sharedName? (address : Address) : Option (Medium × String) :=
  match address.medium with
  | .memory =>
    if address.isShared && address.name ≠ "" then some (.memory, address.name) else none
  | .memoryFile =>
    if address.isShared || (address.name.startsWith "/" && address.name ≠ "/") then
      some (.memoryFile, address.name)
    else none
  | _ => none

/-! ## Parts of a text -/

/-- The bytes of a text, each as the character of its number. -/
def bytesOf (text : String) : List Char :=
  text.toUTF8.toList.map fun byte => Char.ofNat byte.toNat

/-- The text of some bytes. If they are none, a mark stands for each byte that is no character. -/
def textOf (bytes : List Char) : String :=
  (String.fromUTF8? ⟨(bytes.map fun c => UInt8.ofNat c.toNat).toArray⟩).getD
    (String.ofList (bytes.map fun c => if c.toNat < 0x80 then c else '\ufffd'))

/-- The bytes of a part, in which a percent sign and two digits stand for any byte. A zero ends the
part early. -/
def unescape : List Char → List Char
  | '%' :: a :: b :: rest =>
    match Text.hexNumber? [a, b] with
    | some 0 => []
    | some n => Char.ofNat n :: unescape rest
    | none => '%' :: unescape (a :: b :: rest)
  | c :: rest => c :: unescape rest
  | [] => []

/-- The part before the first separator, and what follows the separator. -/
def cut (separator : Char) (input : List Char) : List Char × List Char :=
  (input.takeWhile (· ≠ separator), (input.dropWhile (· ≠ separator)).drop 1)

/-- The name and the value of an option. An option without a name is none. -/
def option? (part : List Char) : Option (String × String) :=
  let (name, value) := cut '=' part
  if unescape name = [] then none else some (textOf (unescape name), textOf (unescape value))

/-- The options after the question mark. -/
def optionsOf (input : List Char) : List (String × String) :=
  (Text.split '&' input).filterMap option?

/-- What follows the authority, which is this machine: after two slashes it is empty or named. -/
def skipAuthority : List Char → Except AddressFault (List Char)
  | '/' :: '/' :: rest =>
    let authority := rest.takeWhile (· ≠ '/')
    if authority = [] ∨ authority = "localhost".toList then .ok (rest.dropWhile (· ≠ '/'))
    else .error (.authority (textOf authority))
  | input => .ok input

/-! ## Reading -/

/-- Whether the value of an option says yes. -/
def saysYes (value : String) : Bool :=
  let digits := value.toList.takeWhile Char.isDigit
  if digits = [] then ["on", "yes", "true"].contains value.toLower
  else digits.foldl (fun n c => 10 * n + (c.toNat - '0'.toNat)) 0 % 256 ≠ 0

/-- Whether the first option of a name says yes. -/
def isSet (options : List (String × String)) (name : String) : Bool :=
  (options.find? (·.1 == name)).any fun option => saysYes option.2

/-- Follows an option. What it says of the layer is not looked up yet. -/
def follow (address : Address) : String × String → Except AddressFault Address
  | ("mode", name) =>
    match Access.ofName? name with
    | none => .error (.noAccess name)
    | some access =>
      if access.narrows address.access then .ok { address with access }
      else .error (.notAllowed name)
  | ("cache", "shared") => .ok { address with isShared := true }
  | ("cache", "private") => .ok { address with isShared := false }
  | ("cache", name) => .error (.noCache name)
  | _ => .ok address

/-- Follows what the options say of the layer: the last one counts. -/
def followLayer (address : Address) (options : List (String × String)) :
    Except AddressFault Address :=
  match options.findRev? (·.1 == "vfs") with
  | none => .ok address
  | some (_, name) =>
    match Layer.ofName? name with
    | some layer => .ok { address with layer }
    | none => .error (.noLayer name)

/-- The address of what follows `file:`. A number sign ends it, and a question mark its name. -/
def ofParts (input : List Char) : Except AddressFault Address := do
  let (name, tail) := cut '?' (cut '#' (← skipAuthority input)).1
  let options := optionsOf tail
  let address ← options.foldlM follow
    { name := textOf (unescape name)
      isUnlocked := isSet options "nolock"
      isFrozen := isSet options "immutable" }
  address.followLayer options

/-- The address of a text. -/
def ofText (text : String) : Except AddressFault Address :=
  match bytesOf text with
  | 'f' :: 'i' :: 'l' :: 'e' :: ':' :: rest => ofParts rest
  | _ => .ok { name := text }

end Address

end RecordMapper.Simulation
