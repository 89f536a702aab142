import RecordMapper.Files.Folder
import RecordMapper.Simulation.Image
import RecordMapper.Database.Settings

/-!
# Contents of files

* `Content`: what a file holds.
* `Content.empty`, `Content.internal`: a new file, and one that only databases read.
* `Content.append`: a file with a text after what it held.
* `Content.text?`: a file read as a text.
* `Content.database?`: a file read as a database.
* `Folder.system`: the system whose files are those of a folder.
-/

namespace RecordMapper

/-- What a file holds. A database is known by its tables, and by the mode in which changes to it are
kept from being lost halfway. -/
inductive Content where
  | bytes (data : ByteArray)
  | database (image : Simulation.Image) (journal : Database.JournalMode)

namespace Content

/-- What a file holds that was just made. -/
def empty : Content := .bytes .empty

/-- The first bytes of a file that only databases read. They are no text, and stand for what is not
told of it. -/
def internalBytes : ByteArray := ⟨#[0x37, 0x7f, 0x06, 0x82]⟩

/-- What a file beside that of a database holds. What it tells of the database is taken from the
database itself. -/
def internal : Content := .bytes internalBytes

/-- The bytes of a file. -/
def toBytes : Content → ByteArray
  | .bytes data => data
  | .database _ _ => internalBytes

/-- Whether a file has no bytes. -/
def isEmpty : Content → Bool
  | .bytes data => data.isEmpty
  | .database _ _ => false

/-- Whether the first byte of a file is a zero. -/
def startsWithZero : Content → Bool
  | .bytes data => data.toList.head? == some 0
  | .database _ _ => false

/-- A file with a text after what it held. A database passes over what follows its end. -/
def append (text : String) : Content → Content
  | .bytes data => .bytes (data ++ text.toUTF8)
  | .database image journal => .database image journal

/-- The text of a file. -/
def text? (content : Content) : Option String :=
  String.fromUTF8? content.toBytes

/-- Whether a file counts as a database of which nothing was written yet. -/
def isBlank : Content → Bool
  | .bytes data => data.size ≤ 1
  | .database _ _ => false

/-- The database of a file, with its mode. -/
def database? : Content → Option (Simulation.Image × Database.JournalMode)
  | .bytes data => if data.size ≤ 1 then some ({}, .delete) else none
  | .database image journal => some (image, journal)

/-- A database with other tables. -/
def withImage (image : Simulation.Image) : Content → Content
  | .bytes _ => .database image .delete
  | .database _ journal => .database image journal

/-- A database with another mode. -/
def withJournal (journal : Database.JournalMode) : Content → Content
  | .bytes _ => .database {} journal
  | .database image _ => .database image journal

end Content

/-- The words of a folder that refuses something. -/
def Folder.refusal : String := "refused"

/-- The system whose files are those of a folder. -/
def Folder.system : System (Folder Content) where
  isDirectory path folder := folder.isDirectory path
  createDirectories path folder :=
    let (made, folder) := folder.createDirectories path
    (if made then .ok () else .error refusal, folder)
  read path folder := (folder.read? path).elim (.error refusal) fun content => .ok content.toBytes
  openEnd path folder := (folder.openFile path .empty).elim (.error refusal) .ok

end RecordMapper
