import RecordMapper.Files.Path

/-!
# Systems

* `System`: what the files of a system are asked, and what it answers.
* `System.ensureDirectories`: the directories of a path that may be empty.
* `System.onPart`: a system of which only a part of a state is known.
* `System.Lawful`: what is known of the directories of a system.
-/

namespace RecordMapper

/-- What the files of a system are asked, with what the system is like before and after it. Where it
refuses, it says so in words of its own. -/
structure System (σ : Type) where
  /-- Whether a path leads to a directory. -/
  isDirectory : Path → σ → Bool
  /-- Makes the directories of a path that are missing. Those made before a refusal stay. -/
  createDirectories : Path → σ → Except String Unit × σ
  /-- What the file of a path holds. -/
  read : Path → σ → Except String ByteArray
  /-- Opens the file of a path, to be written at its end. It is made if it is missing. The result is
  the names that lead to it. -/
  openEnd : Path → σ → Except String (List String × σ)

namespace System

variable {σ τ : Type}

/-- Makes the directories of a path that are missing. The empty path needs none. -/
def ensureDirectories (system : System σ) (path : Path) (state : σ) : Except String Unit × σ :=
  if path.text = "" then (.ok (), state) else system.createDirectories path state

/-- A system of which only a part of a state is known. -/
def onPart (system : System σ) (part : τ → σ) (change : σ → τ → τ) : System τ where
  isDirectory path state := system.isDirectory path (part state)
  createDirectories path state :=
    let (result, after) := system.createDirectories path (part state)
    (result, change after state)
  read path state := system.read path (part state)
  openEnd path state := do
    let (place, after) ← system.openEnd path (part state)
    return (place, change after state)

/-- What is known of the directories of a system. -/
structure Lawful (system : System σ) : Prop where
  /-- The root is a directory, if it is looked up. -/
  root (path : Path) (state : σ) : path.components = [.root] →
    path.text.utf8ByteSize < Path.systemLength → system.isDirectory path state = true
  /-- Only paths that are not too long are looked up. -/
  length (path : Path) (state : σ) : system.isDirectory path state = true →
    path.text.utf8ByteSize < Path.systemLength

theorem Lawful.onPart {system : System σ} (h : system.Lawful) (part : τ → σ)
    (change : σ → τ → τ) : (system.onPart part change).Lawful where
  root path state := h.root path (part state)
  length path state := h.length path (part state)

end System

end RecordMapper
