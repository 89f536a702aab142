import RecordMapper.Files.Content
import RecordMapper.Proofs.Files.Path

/-!
# Folders and their files

* `Folder.content?_modify`: what a file holds after it was changed.
* `Folder.SameDirectories`: folders in which every path leads to the same place.
* `Folder.isDirectory_of_root`: when a path to the root is seen to lead to a directory.
* `Folder.system_lawful`: what is known of the directories of a system holds in a folder.
* `Folder.ensureFile_eq_some`: what a file holds when it is opened.
-/

namespace RecordMapper.Folder

variable {α : Type}

/-! ## Changes -/

/-- The same entry with the content of a file changed. -/
def Entry.map (change : α → α) : Entry α → Entry α
  | .directory => .directory
  | .file content => .file (change content)

theorem entries_modify (folder : Folder α) (place : List String) (change : α → α) :
    (folder.modify place change).entries = folder.entries.map fun item =>
      (item.1, if item.1 = place then item.2.map change else item.2) := by
  unfold modify
  apply List.map_congr_left
  intro item _
  obtain ⟨name, entry⟩ := item
  cases entry with
  | directory => simp [Entry.map]
  | file content =>
    dsimp only [Entry.map]
    split <;> rfl

theorem entryAt_modify (folder : Folder α) (place other : List String) (change : α → α) :
    entry? (folder.modify place change) other =
      if other = place then (folder.entry? other).map (.map change) else folder.entry? other := by
  have hhome : (folder.modify place change).home = folder.home := rfl
  unfold entry?
  rw [hhome]
  by_cases hother : other <+: folder.home
  · simp [hother, Entry.map]
  · rw [if_neg hother, if_neg hother, entries_modify, List.find?_map]
    -- a change leaves the names as they are, so the same item is found
    simp only [Function.comp_def]
    cases hfind : folder.entries.find? (·.1 = other) with
    | none => simp
    | some item =>
      have hname : item.1 = other := by simpa using List.find?_some hfind
      simp only [Option.map_some, hname]
      split <;> rfl

theorem content?_modify (folder : Folder α) (place : List String) (change : α → α) :
    (folder.modify place change).content? place = (folder.content? place).map change := by
  rw [content?, content?, entryAt_modify, if_pos rfl]
  cases folder.entry? place with
  | none => rfl
  | some entry => cases entry <;> rfl

/-! ## Directories -/

/-- Two folders with the same directories and the same working directory. -/
structure SameDirectories (folder folder' : Folder α) : Prop where
  home : folder.home = folder'.home
  directory_iff (place : List String) :
    folder.entry? place = some .directory ↔ folder'.entry? place = some .directory

theorem sameDirectories_modify (folder : Folder α) (place : List String) (change : α → α) :
    SameDirectories folder (folder.modify place change) where
  home := rfl
  directory_iff other := by
    rw [entryAt_modify]
    split
    · cases folder.entry? other with
      | none => simp
      | some entry => cases entry <;> simp [Entry.map]
    · exact .rfl

namespace SameDirectories

theorem refl (folder : Folder α) : SameDirectories folder folder where
  home := rfl
  directory_iff _ := .rfl

variable {folder folder' folder'' : Folder α}

theorem trans (h : SameDirectories folder folder') (h' : SameDirectories folder' folder'') :
    SameDirectories folder folder'' where
  home := h.home.trans h'.home
  directory_iff place := (h.directory_iff place).trans (h'.directory_iff place)

/-- The same steps can be taken. -/
theorem enter?_eq (h : SameDirectories folder folder') : folder.enter? = folder'.enter? := by
  funext place component
  cases component with
  | name name =>
    have hentry := h.directory_iff (place ++ [name])
    simp only [enter?]
    split
    · next hdirectory => rw [hentry.mp hdirectory]
    · next hother =>
      split
      · next hdirectory => exact absurd (hentry.mpr hdirectory) (hother ·)
      · rfl
  | root | here | up => rfl

/-- Every path names the same place. -/
theorem place?_eq (h : SameDirectories folder folder') (path : Path) :
    folder.place? path = folder'.place? path := by
  rw [place?, place?, walk?, walk?, h.enter?_eq, h.home]

end SameDirectories

/-! ## Systems -/

/-- A path to the root leads to a directory unless it is too long to be looked up. -/
theorem isDirectory_of_root (folder : Folder α) {path : Path} (h : path.components = [.root]) :
    folder.isDirectory path = decide (path.text.utf8ByteSize < Path.systemLength) := by
  have hwalk : folder.walk? path.components = some [] := by
    rw [h]
    rfl
  rw [isDirectory, hwalk, Path.isLookedUp_of_root h, Option.isSome_some, Bool.and_true]

/-- What is known of the directories of a system holds in a folder. -/
theorem system_lawful : system.Lawful where
  root path folder hroot hlength :=
    (folder.isDirectory_of_root hroot).trans (decide_eq_true hlength)
  length path folder hdirectory := by
    have hlooked : path.isLookedUp = true := (Bool.and_eq_true_iff.mp hdirectory).1
    simp only [Path.isLookedUp, Bool.and_eq_true, decide_eq_true_eq] at hlooked
    exact hlooked.1.2

/-! ## Opening -/

variable {folder opened : Folder α} {place : List String}

theorem entryAt_of_content {content : α} (h : folder.content? place = some content) :
    folder.entry? place = some (.file content) := by
  unfold content? at h
  split at h
  · next hentry =>
    cases h
    exact hentry
  · cases h

/-- A file that is there is opened as it is. -/
theorem ensureFile_of_content? {content : α} (h : folder.content? place = some content)
    (fresh : α) : folder.ensureFile place fresh = some folder := by
  rw [ensureFile, entryAt_of_content h]

theorem entryAt_add (hplace : folder.entry? place = none) (entry : Entry α) (other : List String) :
    entry? (folder.add place entry) other =
      if other = place then some entry else folder.entry? other := by
  have hhome : (folder.add place entry).home = folder.home := rfl
  unfold entry? at hplace ⊢
  rw [hhome]
  by_cases hother : other <+: folder.home
  · have hne : other ≠ place := by
      rintro rfl
      rw [if_pos hother] at hplace
      cases hplace
    simp [hother, hne]
  · rw [if_neg hother, if_neg hother, add, List.find?_append]
    by_cases heq : other = place
    · subst heq
      rw [if_neg hother, Option.map_eq_none_iff] at hplace
      simp [hplace]
    · simp [heq, Ne.symm heq]

/-- What is made for a file is the file itself, with the content of a new one. -/
theorem ensureFile_eq_some {fresh : α} (h : folder.ensureFile place fresh = some opened) :
    folder.SameDirectories opened ∧
      opened.content? place = some ((folder.content? place).getD fresh) := by
  unfold ensureFile at h
  cases hentry : folder.entry? place with
  | some entry =>
    rw [hentry] at h
    cases entry with
    | directory => cases h
    | file content =>
      cases h
      have hcontent : folder.content? place = some content := by rw [content?, hentry]
      exact ⟨.refl folder, by rw [hcontent, Option.getD_some]⟩
  | none =>
    rw [hentry] at h
    split at h
    · next hfile => cases hfile
    · split at h
      · cases h
      · cases h
        have hcontent : folder.content? place = none := by rw [content?, hentry]
        refine ⟨⟨rfl, fun other => ?_⟩, ?_⟩
        · rw [entryAt_add hentry]
          split
          · next hother => simp [hother, hentry]
          · exact .rfl
        · rw [hcontent, Option.getD_none, content?, entryAt_add hentry, if_pos rfl]
    · cases h

/-- What is opened at its end is the file that a path names. -/
theorem openEnd_system {folder opened : Folder Content} {path : Path}
    (hpath : folder.place? path = some place)
    (hopen : folder.ensureFile place .empty = some opened) :
    system.openEnd path folder = .ok (place, opened) := by
  have hfile : folder.openFile path .empty = some (place, opened) := by
    simp [openFile, hpath, hopen]
  change (folder.openFile path .empty).elim (Except.error refusal) Except.ok = _
  rw [hfile]
  rfl

end RecordMapper.Folder
