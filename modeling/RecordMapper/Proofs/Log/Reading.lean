import RecordMapper.Log.Event
import RecordMapper.Proofs.Json.Forms
import RecordMapper.Proofs.Json.Printable
import RecordMapper.Proofs.NameSet

/-!
# Reading a log

* `Log.linesOf`: the lines of a file, which is split at its line feeds.
* `Log.splitOn_flatMap_line`: lines without line feeds are what a file of them is split into.
* `Event.ofJson?`, `Event.ofLine?`: the event of an object, and of a line.
* `Event.ofLine?_render`: an event is read back from its line.
-/

namespace RecordMapper

/-! ## Bytes -/

namespace Text

theorem utf8_append (text text' : String) : utf8 (text ++ text') = utf8 text ++ utf8 text' := by
  rw [utf8_eq_flatMap, String.toList_append, List.flatMap_append, ← utf8_eq_flatMap,
    ← utf8_eq_flatMap]

/-- A text is read back from its bytes. -/
theorem fromUTF8?_utf8 (text : String) :
    String.fromUTF8? (utf8 text).toByteArray = some text := by
  have hbytes : (utf8 text).toByteArray = text.toByteArray := by
    apply ByteArray.ext
    apply Array.toList_inj.mp
    rw [List.toList_data_toByteArray, utf8, String.toUTF8_eq_toByteArray]
  rw [hbytes, String.fromUTF8?, dif_pos text.isValidUTF8]
  rfl

end Text

/-! ## Lines -/

namespace Log

/-- The byte that ends a line. -/
def lineFeed : UInt8 := 10

/-- The lines of a file, each up to its line feed. What follows the last line feed is no line. -/
def linesOf (data : List UInt8) : List (List UInt8) :=
  (data.splitOn lineFeed).dropLast

/-- Nothing follows the last line. -/
def IsEnded (data : List UInt8) : Prop :=
  data = [] ∨ data.getLast? = some lineFeed

theorem splitOn_cons_lineFeed (before rest : List UInt8) :
    (before ++ lineFeed :: rest).splitOn lineFeed =
      before.splitOn lineFeed ++ rest.splitOn lineFeed :=
  List.splitOnP_append_cons before rest (beq_self_eq_true lineFeed)

/-- What is written after the last line feed is split by itself. -/
theorem splitOn_append {data : List UInt8} (h : IsEnded data) (more : List UInt8) :
    (data ++ more).splitOn lineFeed = linesOf data ++ more.splitOn lineFeed := by
  obtain rfl | hlast := h
  · rfl
  · obtain ⟨before, rfl⟩ := List.getLast?_eq_some_iff.mp hlast
    rw [linesOf, splitOn_cons_lineFeed, List.splitOn_nil, List.dropLast_concat, List.append_assoc,
      List.singleton_append, splitOn_cons_lineFeed]

/-- A file of lines is split into them. -/
theorem splitOn_flatMap_line {lines : List (List UInt8)} (h : ∀ line ∈ lines, lineFeed ∉ line) :
    (lines.flatMap (· ++ [lineFeed])).splitOn lineFeed = lines ++ [[]] := by
  induction lines with
  | nil => rfl
  | cons line rest ih =>
    obtain ⟨hline, hrest⟩ := List.forall_mem_cons.mp h
    have hone : line.splitOn lineFeed = [line] := by
      apply List.splitOnP_eq_singleton
      intro byte hbyte
      exact beq_false_of_ne fun heq => hline (heq ▸ hbyte)
    rw [List.flatMap_cons, List.append_assoc, List.singleton_append, splitOn_cons_lineFeed, hone,
      ih hrest]
    rfl

theorem lineFeed_not_mem_encodeChar {c : Char} (h : 0x20 ≤ c.toNat) :
    lineFeed ∉ String.utf8EncodeChar c := by
  have hcode : 0x20 ≤ c.val.toNat := h
  unfold String.utf8EncodeChar lineFeed
  dsimp only
  -- the cases are the numbers of bytes; with more than one, no byte is below 128
  split_ifs
  all_goals
    simp only [List.mem_cons, List.not_mem_nil, or_false, ← UInt8.toNat_inj, UInt8.toNat_ofNat',
      UInt8.toNat_ofNat]
    omega

theorem lineFeed_not_mem_utf8 {text : String} (h : Text.IsPrintable text.toList) :
    lineFeed ∉ Text.utf8 text := by
  rw [Text.utf8_eq_flatMap]
  intro hmem
  obtain ⟨c, hc, hbyte⟩ := List.mem_flatMap.mp hmem
  exact lineFeed_not_mem_encodeChar (h c hc) hbyte

end Log

/-! ## Events -/

namespace Event

/-- The names of all fields of an event. -/
def fieldNames : List String := ["event", "timestamp_ms", "level", "table", "sql", "message"]

/-- A text that an object may have once. Where it is left out there is none. -/
def optionalText? (members : List (Option String × Json)) (name : String) :
    Option (Option String) := do
  match ← Json.optionalField? members name with
  | none => some none
  | some value => (value.string?).map some

/-- The time and the event of an object. It has the fields of an event and no others, each once. -/
def ofJson? (value : Json) : Option (Nat × Event) := do
  let members ← value.members?
  if members.all fun member => (fieldNames.map some).contains member.1 then
    let .number time ← Json.field? members "timestamp_ms" | none
    return (← time.natural?, {
      name := ← (← Json.field? members "event").string?
      level := ← Level.ofJson? (← Json.field? members "level")
      table := ← optionalText? members "table"
      sql := ← optionalText? members "sql"
      message := ← optionalText? members "message" })
  else none

/-- The time and the event of a line, which is JSON. -/
def ofLine? (line : List UInt8) : Option (Nat × Event) := do
  ofJson? (← Json.read? (← String.fromUTF8? line.toByteArray))

theorem exact_member? (name : String) (content : Option String) :
    ∀ member ∈ member? name content, member.2.Exact := by
  cases content with
  | none => nofun
  | some content => exact List.forall_mem_singleton.mpr (.text _)

theorem exact_toJson (time : Nat) (event : Event) : (event.toJson time).Exact := by
  apply Json.exact_record
  simp only [List.forall_mem_append, List.forall_mem_cons]
  exact ⟨⟨⟨⟨.text _, Json.exact_nat time, .text _, nofun⟩, exact_member? _ _⟩, exact_member? _ _⟩,
    exact_member? _ _⟩

/-- The members of a line, with their keys as they are read. -/
def members (time : Nat) (event : Event) : List (Option String × Json) :=
  [(some "event", .str event.name), (some "timestamp_ms", .nat time),
    (some "level", .str event.level.name)] ++
    (member? "table" event.table ++ member? "sql" event.sql ++
      member? "message" event.message).map fun member => (some member.1, member.2)

theorem toJson_eq (time : Nat) (event : Event) :
    event.toJson time = .object (event.members time) := by
  simp [toJson, Json.record, members]

theorem valuesOf_member? (name other : String) (content : Option String) :
    Json.valuesOf name ((member? other content).map fun member => (some member.1, member.2)) =
      if other = name then content.toList.map .str else [] := by
  cases content with
  | none => simp [member?, Json.valuesOf]
  | some content => by_cases h : other = name <;> simp [member?, Json.valuesOf, h]

theorem valuesOf_append (name : String) (xs ys : List (Option String × Json)) :
    Json.valuesOf name (xs ++ ys) = Json.valuesOf name xs ++ Json.valuesOf name ys := by
  rw [Json.valuesOf, List.filter_append, List.map_append, Json.valuesOf, Json.valuesOf]

/-- The values of a name among the members of a line. -/
theorem valuesOf_members (time : Nat) (event : Event) (name : String) :
    Json.valuesOf name (event.members time) =
      Json.valuesOf name [(some "event", .str event.name), (some "timestamp_ms", .nat time),
        (some "level", .str event.level.name)] ++
      ((if "table" = name then event.table.toList.map .str else []) ++
      (if "sql" = name then event.sql.toList.map .str else []) ++
      (if "message" = name then event.message.toList.map .str else [])) := by
  rw [members, List.map_append, List.map_append, valuesOf_append, valuesOf_append, valuesOf_append,
    valuesOf_member?, valuesOf_member?, valuesOf_member?]

theorem optionalText?_of_valuesOf {members : List (Option String × Json)} {name : String}
    {content : Option String} (h : Json.valuesOf name members = content.toList.map .str) :
    optionalText? members name = some content := by
  unfold optionalText? Json.optionalField?
  rw [h]
  cases content <;> rfl

theorem field?_of_valuesOf {members : List (Option String × Json)} {name : String}
    {value : Json} (h : Json.valuesOf name members = [value]) :
    Json.field? members name = some value := by
  rw [Json.field?, h]

theorem fieldNames_members (time : Nat) (event : Event) :
    (event.members time).all (fun member => (fieldNames.map some).contains member.1) = true := by
  obtain ⟨name, level, table, sql, message⟩ := event
  cases table <;> cases sql <;> cases message <;> rfl

/-- An event is read back from its object. -/
theorem ofJson?_toJson (time : Nat) (event : Event) :
    ofJson? (event.toJson time) = some (time, event) := by
  have hevent : Json.field? (event.members time) "event" = some (.str event.name) :=
    field?_of_valuesOf (valuesOf_members time event "event")
  have htime : Json.field? (event.members time) "timestamp_ms" = some (.nat time) :=
    field?_of_valuesOf (valuesOf_members time event "timestamp_ms")
  have hlevel : Json.field? (event.members time) "level" = some (.str event.level.name) :=
    field?_of_valuesOf (valuesOf_members time event "level")
  have htable : optionalText? (event.members time) "table" = some event.table :=
    optionalText?_of_valuesOf (by rw [valuesOf_members]; simp [Json.valuesOf])
  have hsql : optionalText? (event.members time) "sql" = some event.sql :=
    optionalText?_of_valuesOf (by rw [valuesOf_members]; simp [Json.valuesOf])
  have hmessage : optionalText? (event.members time) "message" = some event.message :=
    optionalText?_of_valuesOf (by rw [valuesOf_members]; simp [Json.valuesOf])
  have hread : Level.ofJson? (.str event.level.name) = some event.level :=
    Level.lawful.read?_write event.level
  have hmembers : (event.toJson time).members? = some (event.members time) := by
    rw [toJson_eq, Json.members?]
    simp [members]
  simp only [ofJson?, hmembers, Option.bind_eq_bind, Option.bind_some, fieldNames_members, if_true,
    hevent, htime, hlevel, htable, hsql, hmessage, hread]
  rfl

/-- An event is read back from its line. -/
theorem ofLine?_render (time : Nat) (event : Event) :
    ofLine? (Text.utf8 (event.toJson time).render) = some (time, event) := by
  rw [ofLine?, Text.fromUTF8?_utf8]
  simp only [Option.bind_eq_bind, Option.bind_some]
  rw [Json.read?_render (exact_toJson time event), Option.bind_some, ofJson?_toJson]

end Event

end RecordMapper
