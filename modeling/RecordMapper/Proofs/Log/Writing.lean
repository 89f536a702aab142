import RecordMapper.Log.Sink
import RecordMapper.Proofs.Files.Folder
import RecordMapper.Proofs.Log.Reading

/-!
# Writing a log

* `Log.Extends`: the log gets some bytes more, and the directories stay as they are.
* `Sink.extends_record`, `Sink.extends_recordAll`: what a sink writes.
* `Log.Use`, `Log.runAll`: a sink that is opened and records events, and several one after the
  other.
* `Log.Records`: a file that is an earlier one with a line more for each of some events.
* `Log.records_of_runAll`: what is left of a file after several sinks have written to it.
-/

namespace RecordMapper

namespace Log

/-! ## Bytes -/

/-- The events that reach a level. -/
def kept (least : Level) (entries : List (Nat × Event)) : List (Nat × Event) :=
  entries.filter (·.2.level.reaches least)

/-- The bytes of an event in JSON. -/
def bytesOf (entry : Nat × Event) : List UInt8 :=
  Text.utf8 (entry.2.toJson entry.1).render

/-- The bytes of events, each on a line. -/
def bytesOfAll (entries : List (Nat × Event)) : List UInt8 :=
  (entries.map bytesOf).flatMap (· ++ [lineFeed])

theorem bytesOfAll_append (entries entries' : List (Nat × Event)) :
    bytesOfAll (entries ++ entries') = bytesOfAll entries ++ bytesOfAll entries' := by
  rw [bytesOfAll, List.map_append, List.flatMap_append, bytesOfAll, bytesOfAll]

/-- What a sink writes for an event. -/
theorem utf8_lines (least : Level) (entry : Nat × Event) :
    Text.utf8 (Event.lines least [entry]) = bytesOfAll (kept least [entry]) := by
  unfold Event.lines kept
  by_cases h : entry.2.level.reaches least = true
  · rw [List.filter_singleton, h]
    have hline : String.join [entry.2.line entry.1] = entry.2.line entry.1 := by simp
    have hend : Text.utf8 "\n" = [lineFeed] := by decide
    rw [cond_true, List.map_singleton, hline, Event.line, Text.utf8_append, hend]
    simp [bytesOfAll, bytesOf]
  · rw [List.filter_singleton, Bool.eq_false_of_not_eq_true h]
    rfl

/-! ## Growing files -/

/-- The log gets some bytes more, and the directories stay as they are. -/
structure Extends (place : List String) (output after : Output) (bytes : List UInt8) : Prop where
  directories : output.folder.SameDirectories after.folder
  content : ∀ data, output.folder.content? place = some (.bytes data) →
    ∃ data', after.folder.content? place = some (.bytes data') ∧
      data'.data.toList = data.data.toList ++ bytes

namespace Extends

variable {place : List String} {output middle after : Output} {bytes bytes' : List UInt8}

theorem refl (place : List String) (output : Output) : Extends place output output [] where
  directories := .refl output.folder
  content data hdata := ⟨data, hdata, (List.append_nil _).symm⟩

theorem trans (h : Extends place output middle bytes) (h' : Extends place middle after bytes') :
    Extends place output after (bytes ++ bytes') where
  directories := h.directories.trans h'.directories
  content data hdata := by
    obtain ⟨data', hdata', hbytes⟩ := h.content data hdata
    obtain ⟨data'', hdata'', hbytes'⟩ := h'.content data' hdata'
    exact ⟨data'', hdata'', by rw [hbytes', hbytes, List.append_assoc]⟩

end Extends

end Log

open Log

/-! ## Sinks -/

theorem Content.append_bytes (text : String) (data : ByteArray) :
    ∃ data', Content.append text (.bytes data) = .bytes data' ∧
      data'.data.toList = data.data.toList ++ Text.utf8 text :=
  ⟨_, rfl, by simp [Text.utf8]⟩

theorem Sink.extends_record (place : List String) (least : Level) (output : Output)
    (entry : Nat × Event) : Extends place output ((Sink.file place least).record output entry)
      (bytesOfAll (kept least [entry])) where
  directories := Folder.sameDirectories_modify _ _ _
  content data hdata := by
    obtain ⟨data', hdata', hbytes⟩ := Content.append_bytes (Event.lines least [entry]) data
    refine ⟨data', ?_, by rw [hbytes, utf8_lines]⟩
    rw [Sink.record, Folder.content?_modify, hdata, Option.map_some, hdata']

/-- By induction on the events: each is written after those before it. -/
theorem Sink.extends_recordAll (place : List String) (least : Level) (entries : List (Nat × Event))
    (output : Output) : Extends place output ((Sink.file place least).recordAll output entries)
      (bytesOfAll (kept least entries)) := by
  induction entries generalizing output with
  | nil => exact .refl place output
  | cons entry rest ih =>
    have hsplit : kept least (entry :: rest) = kept least [entry] ++ kept least rest := by
      rw [kept, kept, kept, ← List.filter_append, List.singleton_append]
    rw [hsplit, bytesOfAll_append]
    exact (Sink.extends_record place least output entry).trans (ih _)

/-! ## Uses -/

namespace Log

/-- A use of the file of a path: a sink is opened for it and records events. -/
structure Use where
  path : Path
  least : Level
  entries : List (Nat × Event)

/-- What is left after a use. -/
def Use.run (use : Use) (output : Output) : Option Output := do
  let (sink, folder) ← (Sink.openFile Folder.system use.path use.least output.folder).toOption
  return sink.recordAll { output with folder } use.entries

/-- What is left after several uses, one after the other. -/
def runAll (uses : List Use) (output : Output) : Option Output :=
  uses.foldlM (fun output use => use.run output) output

/-- The events that are written in several uses, each by its own sink. -/
def keptOf (uses : List Use) : List (Nat × Event) :=
  uses.flatMap fun use => kept use.least use.entries

variable {place : List String} {output : Output}

theorem Use.run_eq (output : Output) {use : Use} {opened : Folder Content}
    (hpath : output.folder.place? use.path = some place)
    (hopen : output.folder.ensureFile place .empty = some opened) :
    use.run output = some ((Sink.file place use.least).recordAll { output with folder := opened }
      use.entries) := by
  rw [run, Sink.openFile, Folder.openEnd_system hpath hopen]
  rfl

/-- Paths that lead to a file still do where the directories are the same. -/
theorem place?_of_sameDirectories {uses : List Use} {folder folder' : Folder Content}
    (h : folder.SameDirectories folder')
    (hpaths : ∀ use ∈ uses, folder.place? use.path = some place) :
    ∀ use ∈ uses, folder'.place? use.path = some place := by
  intro use huse
  rw [← h.place?_eq]
  exact hpaths use huse

/-- By induction on the uses: each finds the file as those before it have left it. -/
theorem exists_runAll (output : Output) {uses : List Use} {data : ByteArray}
    (hpaths : ∀ use ∈ uses, output.folder.place? use.path = some place)
    (hfile : output.folder.content? place = some (.bytes data)) :
    ∃ after, runAll uses output = some after ∧
      Extends place output after (bytesOfAll (keptOf uses)) := by
  induction uses generalizing output data with
  | nil => exact ⟨output, rfl, .refl place output⟩
  | cons use rest ih =>
    obtain ⟨hpath, hrest⟩ := List.forall_mem_cons.mp hpaths
    have hrun := Use.run_eq output hpath (Folder.ensureFile_of_content? hfile .empty)
    have hwritten := Sink.extends_recordAll place use.least use.entries output
    obtain ⟨data', hfile', -⟩ := hwritten.content data hfile
    have hrest' := place?_of_sameDirectories hwritten.directories hrest
    obtain ⟨after, hafter, hextends⟩ := ih _ hrest' hfile'
    refine ⟨after, ?_, ?_⟩
    · rw [runAll, List.foldlM_cons, hrun]
      exact hafter
    · rw [keptOf, List.flatMap_cons, bytesOfAll_append]
      exact hwritten.trans hextends

/-- To open a file that was just made makes nothing more. -/
theorem runAll_opened {uses : List Use} {opened : Folder Content} (huses : uses ≠ [])
    (hpaths : ∀ use ∈ uses, output.folder.place? use.path = some place)
    (hopen : output.folder.ensureFile place .empty = some opened) :
    runAll uses output = runAll uses { output with folder := opened } := by
  obtain ⟨use, rest, rfl⟩ := List.exists_cons_of_ne_nil huses
  obtain ⟨hdirectories, hcontent⟩ := Folder.ensureFile_eq_some hopen
  have hpath := hpaths use List.mem_cons_self
  have hpath' := place?_of_sameDirectories hdirectories hpaths use List.mem_cons_self
  have hagain : opened.ensureFile place .empty = some opened :=
    Folder.ensureFile_of_content? hcontent .empty
  rw [runAll, runAll, List.foldlM_cons, List.foldlM_cons, Use.run_eq output hpath hopen,
    Use.run_eq { output with folder := opened } hpath' hagain]

/-! ## Records -/

/-- A file that is an earlier one and then has a line for each of some events. It is split into the
lines of the earlier one and those, which are read as the events. -/
def Records (earlier : List UInt8) (events : List (Nat × Event)) (data : List UInt8) : Prop :=
  ∃ lines, data = earlier ++ lines.flatMap (· ++ [lineFeed]) ∧
    data.splitOn lineFeed = linesOf earlier ++ lines ++ [[]] ∧
    lines.map Event.ofLine? = events.map some

theorem records_bytesOfAll {earlier : List UInt8} (h : IsEnded earlier)
    (events : List (Nat × Event)) : Records earlier events (earlier ++ bytesOfAll events) := by
  refine ⟨events.map bytesOf, rfl, ?_, ?_⟩
  · rw [splitOn_append h, bytesOfAll, splitOn_flatMap_line, List.append_assoc]
    intro line hline
    obtain ⟨entry, -, rfl⟩ := List.mem_map.mp hline
    exact lineFeed_not_mem_utf8 (Json.isPrintable_render _)
  · rw [List.map_map]
    exact List.map_congr_left fun entry _ => Event.ofLine?_render entry.1 entry.2

/-- Several sinks that write to a file one after the other leave what was there, and then a line for
each event that reaches the level of its sink. -/
theorem records_of_runAll {uses : List Use} {earlier : ByteArray} (huses : uses ≠ [])
    (hpaths : ∀ use ∈ uses, output.folder.place? use.path = some place)
    (hopen : (output.folder.ensureFile place .empty).isSome)
    (hearlier : (output.folder.content? place).getD .empty = .bytes earlier)
    (hended : IsEnded earlier.data.toList) :
    ∃ after data, runAll uses output = some after ∧
      after.folder.content? place = some (.bytes data) ∧
      Records earlier.data.toList (keptOf uses) data.data.toList := by
  obtain ⟨opened, hopened⟩ := Option.isSome_iff_exists.mp hopen
  obtain ⟨hdirectories, hcontent⟩ := Folder.ensureFile_eq_some hopened
  rw [hearlier] at hcontent
  have hpaths' := place?_of_sameDirectories hdirectories hpaths
  obtain ⟨after, hafter, hextends⟩ :=
    exists_runAll { output with folder := opened } hpaths' hcontent
  obtain ⟨data, hdata, hbytes⟩ := hextends.content earlier hcontent
  refine ⟨after, data, ?_, hdata, ?_⟩
  · rw [runAll_opened huses hpaths hopened, hafter]
  · rw [hbytes]
    exact records_bytesOfAll hended (keptOf uses)

/-- A file with one line, to which a sink writes one event of two, and then another sink one with a
line break and a quote. -/
theorem records_of_runAll_twice :
    let start : Output :=
      { folder := { entries := [(["app.log"], .file (.bytes "-\n".toUTF8))] } }
    let first : Use := {
      path := ⟨"app.log"⟩
      least := .info
      entries := [(1, .connectionClosed), (2, .schemaRegistered "user")] }
    let second : Use := {
      path := ⟨"./app.log"⟩
      least := .debug
      entries := [(3, .statementExecuted none "SELECT\n\"")] }
    ∃ after data, runAll [first, second] start = some after ∧
      after.folder.content? ["app.log"] = some (.bytes data) ∧
      Records "-\n".toUTF8.data.toList
        [(1, .connectionClosed), (3, .statementExecuted none "SELECT\n\"")] data.data.toList :=
  records_of_runAll (List.cons_ne_nil _ _) (by decide +kernel) rfl rfl (.inr (by decide +kernel))

end Log

end RecordMapper
