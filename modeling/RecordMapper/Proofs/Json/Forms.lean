import Mathlib.Data.List.Nodup
import RecordMapper.Proofs.Json.Reading
import RecordMapper.Schema.Json

/-!
# Schemas in JSON are read back

* `Json.Form`: how the values of a type are written in JSON and read.
* `Json.Form.Lawful`: a value is read back from what is written of it.
* `Json.fields?_record`, `Json.items?_map`: structures and lists are read back.
* `Json.Form.RoundTrips`, `Json.forms_roundTrip`: schemas, what they consist of, dialects,
  directions and levels are read back from their texts, which are fixed points of reading and
  writing.
-/

namespace RecordMapper

namespace Json

/-! ## Structures and lists -/

theorem exact_record {members : List (String × Json)} (h : ∀ member ∈ members, member.2.Exact) :
    (record members).Exact := by
  refine .object fun member hmember => ?_
  obtain ⟨named, hnamed, rfl⟩ := List.mem_map.mp hmember
  exact h named hnamed

/-- Among distinct keys, the member of a key is found alone. -/
theorem filter_key_eq_singleton {α κ : Type} [BEq κ] [LawfulBEq κ] {key : α → κ} {xs : List α}
    (hxs : (xs.map key).Nodup) {x : α} (hx : x ∈ xs) : xs.filter (key · == key x) = [x] := by
  induction xs with
  | nil => cases hx
  | cons y ys ih =>
    obtain ⟨hy, hys⟩ := List.nodup_cons.mp hxs
    rcases List.mem_cons.mp hx with rfl | hmem
    · have hnone : ys.filter (key · == key x) = [] := by
        rw [List.filter_eq_nil_iff]
        intro z hz hkey
        exact hy (List.mem_map.mpr ⟨z, hz, beq_iff_eq.mp hkey⟩)
      rw [List.filter_cons, beq_self_eq_true, if_pos rfl, hnone]
    · have hne : key y ≠ key x := fun hkey => hy (hkey ▸ List.mem_map_of_mem hmem)
      rw [List.filter_cons, beq_false_of_ne hne, if_neg Bool.false_ne_true, ih hys hmem]

theorem field?_of_mem {members : List (Option String × Json)} (h : (members.map Prod.fst).Nodup)
    {name : String} {value : Json} (hmember : (some name, value) ∈ members) :
    field? members name = some value := by
  rw [field?, valuesOf, filter_key_eq_singleton h hmember]
  rfl

/-- A structure is read back from the object of its fields. -/
theorem fields?_record {names : List String} (h : names.Nodup) {members : List (String × Json)}
    (hnames : members.map Prod.fst = names) :
    fields? names (record members) = some (members.map Prod.snd) := by
  let written : List (Option String × Json) := members.map fun member => (some member.1, member.2)
  have hnodup : (written.map Prod.fst).Nodup := by
    have hkeys : written.map Prod.fst = names.map some := by
      rw [← hnames, List.map_map, List.map_map]
      rfl
    rw [hkeys]
    exact h.map fun _ _ => Option.some.inj
  have htexts : members? (record members) = some written := by
    refine if_pos (List.all_eq_true.mpr fun member hmember => ?_)
    obtain ⟨named, -, rfl⟩ := List.mem_map.mp hmember
    rfl
  have hfield : ∀ member ∈ members,
      (field? written ∘ Prod.fst) member = pure member.2 := fun member hmember =>
    field?_of_mem hnodup (List.mem_map.mpr ⟨member, hmember, rfl⟩)
  change (members? (record members)).bind _ = _
  rw [htexts, Option.bind_some, ← hnames, List.mapM_map, mapM_congr_of_mem hfield, List.mapM_pure]
  rfl

/-- A list is read back from the array of its items. -/
theorem items?_map {α : Type} {write : α → Json} {read : Json → Option α}
    (h : ∀ x, read (write x) = some x) (xs : List α) :
    items? read (.array (xs.map write)) = some xs := by
  have hread : ∀ x ∈ xs, (read ∘ write) x = pure x := fun x _ => h x
  rw [items?, List.mapM_map, mapM_congr_of_mem hread, List.mapM_pure, List.map_id']
  rfl

/-- A number of 64 bits is read back. -/
theorem word?_nat (n : UInt64) : word? (.nat n.toNat) = some n := by
  have hlt : n.toNat < UInt64.size := n.toNat_lt_size
  change (if n.toNat < UInt64.size then some (UInt64.ofNat n.toNat) else none) = some n
  rw [if_pos hlt, UInt64.ofNat_toNat]

theorem exact_nat (n : Nat) : (nat n).Exact :=
  .number fun _ => rfl

/-! ## Forms -/

/-- How the values of a type are written and read. -/
structure Form (α : Type) where
  write : α → Json
  read? : Json → Option α

namespace Form

variable {α : Type}

/-- The text that is written for a value. -/
def text (form : Form α) (x : α) : String :=
  (form.write x).render

/-- The value that a text is read as. -/
def ofText? (form : Form α) (text : String) : Option α :=
  (Json.read? text).bind form.read?

/-- The text that is written for the value of a text. -/
def normalize? (form : Form α) (text : String) : Option String :=
  (form.ofText? text).map form.text

/-- A value is read back from what is written of it. -/
structure Lawful (form : Form α) : Prop where
  exact : ∀ x, (form.write x).Exact
  read?_write : ∀ x, form.read? (form.write x) = some x

/-- Each value is read back from its text. So what is written for a text that can be read, however
that text has been written, is a text of the same value that is not changed by reading and writing
it again. -/
structure RoundTrips (form : Form α) : Prop where
  ofText?_text : ∀ x, form.ofText? (form.text x) = some x
  normalize?_normal : ∀ text normal, form.normalize? text = some normal →
    form.ofText? normal = form.ofText? text ∧ form.normalize? normal = some normal

theorem Lawful.roundTrips {form : Form α} (h : form.Lawful) : form.RoundTrips := by
  have hread : ∀ x, form.ofText? (form.text x) = some x := by
    intro x
    rw [ofText?, text, read?_render (h.exact x), Option.bind_some, h.read?_write]
  refine ⟨hread, fun text normal hnormal => ?_⟩
  obtain ⟨x, hx, rfl⟩ := Option.map_eq_some_iff.mp hnormal
  refine ⟨(hread x).trans hx.symm, ?_⟩
  rw [normalize?, hread, Option.map_some]

end Form

end Json

open Json

/-! ## Alternatives -/

theorem ColumnKind.lawful : Form.Lawful ⟨ColumnKind.toJson, ColumnKind.ofJson?⟩ where
  exact kind := by
    cases kind with
    | primary | int32 | uint32 => exact .text _
    | varchar maxLength =>
      have hbody : (record [("max_length", .nat maxLength.toNat)]).Exact :=
        exact_record (List.forall_mem_singleton.mpr (exact_nat _))
      exact exact_record (List.forall_mem_singleton.mpr hbody)
  read?_write kind := by
    cases kind with
    | primary | int32 | uint32 => rfl
    | varchar maxLength =>
      have hbody : fields? ["max_length"] (record [("max_length", .nat maxLength.toNat)]) =
          some [.nat maxLength.toNat] := fields?_record (by decide) rfl
      change ColumnKind.ofJson? (.object [(some "varchar", _)]) = _
      simp only [ColumnKind.ofJson?, variant?, hbody, Option.bind_eq_bind, Option.bind_some,
        word?_nat]
      rfl

theorem Side.lawful : Form.Lawful ⟨Side.toJson, Side.ofJson?⟩ where
  exact _ := .text _
  read?_write side := by cases side <;> rfl

theorem Dialect.lawful : Form.Lawful ⟨Dialect.toJson, Dialect.ofJson?⟩ where
  exact _ := .text _
  read?_write dialect := by cases dialect <;> rfl

theorem Direction.lawful : Form.Lawful ⟨Direction.toJson, Direction.ofJson?⟩ where
  exact direction := by cases direction <;> exact .text _
  read?_write direction := by cases direction <;> rfl

theorem Level.lawful : Form.Lawful ⟨Level.toJson, Level.ofJson?⟩ where
  exact _ := .text _
  read?_write level := by cases level <;> rfl

/-! ## Structures -/

theorem Column.lawful : Form.Lawful ⟨Column.toJson, Column.ofJson?⟩ where
  exact column := by
    refine exact_record ?_
    simp only [List.forall_mem_cons]
    exact ⟨.text _, ColumnKind.lawful.exact _, .bool _, .bool _, List.forall_mem_nil _⟩
  read?_write column := by
    have hkind := ColumnKind.lawful.read?_write column.kind
    have hfields : fields? ["name", "kind", "is_primary", "is_nullable"] column.toJson =
        some [.str column.name, column.kind.toJson, .bool column.isPrimary,
          .bool column.isNullable] := fields?_record (by decide) rfl
    dsimp only at hkind ⊢
    rw [Column.ofJson?, hfields]
    simp only [hkind, Option.bind_eq_bind, Option.bind_some]
    rfl

theorem Relation.lawful : Form.Lawful ⟨Relation.toJson, Relation.ofJson?⟩ where
  exact relation := by
    refine exact_record ?_
    simp only [List.forall_mem_cons]
    exact ⟨.text _, .text _, .text _, Side.lawful.exact _, List.forall_mem_nil _⟩
  read?_write relation := by
    have hside := Side.lawful.read?_write relation.side
    have hfields : fields? ["key", "target_table", "target_key", "direction"] relation.toJson =
        some [.str relation.key, .str relation.targetTable, .str relation.targetKey,
          relation.side.toJson] := fields?_record (by decide) rfl
    dsimp only at hside ⊢
    rw [Relation.ofJson?, hfields]
    simp only [hside, Option.bind_eq_bind, Option.bind_some]
    rfl

theorem Schema.lawful : Form.Lawful ⟨Schema.toJson, Schema.ofJson?⟩ where
  exact schema := by
    refine exact_record ?_
    simp only [List.forall_mem_cons]
    refine ⟨.text _, .array ?_, .array ?_, List.forall_mem_nil _⟩
    · exact List.forall_mem_map.mpr fun column _ => Column.lawful.exact column
    · exact List.forall_mem_map.mpr fun relation _ => Relation.lawful.exact relation
  read?_write schema := by
    have hcolumns := items?_map Column.lawful.read?_write schema.columns
    have hrelations := items?_map Relation.lawful.read?_write schema.relations
    have hfields : fields? ["table", "columns", "relations"] schema.toJson =
        some [.str schema.table, .array (schema.columns.map Column.toJson),
          .array (schema.relations.map Relation.toJson)] := fields?_record (by decide) rfl
    dsimp only at hcolumns hrelations ⊢
    rw [Schema.ofJson?, hfields]
    simp only [hcolumns, hrelations, Option.bind_eq_bind, Option.bind_some]
    rfl

/-- Schemas, their columns, kinds, relations and sides, dialects, directions and levels are read
back from their texts, and what is written for any text that can be read is a fixed point of reading
and writing. -/
theorem Json.forms_roundTrip :
    Form.RoundTrips ⟨Schema.toJson, Schema.ofJson?⟩ ∧
      Form.RoundTrips ⟨Column.toJson, Column.ofJson?⟩ ∧
      Form.RoundTrips ⟨ColumnKind.toJson, ColumnKind.ofJson?⟩ ∧
      Form.RoundTrips ⟨Relation.toJson, Relation.ofJson?⟩ ∧
      Form.RoundTrips ⟨Side.toJson, Side.ofJson?⟩ ∧
      Form.RoundTrips ⟨Dialect.toJson, Dialect.ofJson?⟩ ∧
      Form.RoundTrips ⟨Direction.toJson, Direction.ofJson?⟩ ∧
      Form.RoundTrips ⟨Level.toJson, Level.ofJson?⟩ :=
  ⟨Schema.lawful.roundTrips, Column.lawful.roundTrips, ColumnKind.lawful.roundTrips,
    Relation.lawful.roundTrips, Side.lawful.roundTrips, Dialect.lawful.roundTrips,
    Direction.lawful.roundTrips, Level.lawful.roundTrips⟩

/-- The order of fields, blanks, an escape, an array in place of an object and a field that is not
known are gone once a column has been read and written. -/
example : Form.normalize? ⟨Column.toJson, Column.ofJson?⟩
    " \x7b\"is_nullable\" : true, \"na\\u006De\":\"a\", \"size\":null,\"is_primary\":false,
      \"kind\":\x7b\"varchar\":[80]\x7d\x7d" =
    some ("\x7b\"name\":\"a\",\"kind\":\x7b\"varchar\":\x7b\"max_length\":80\x7d\x7d," ++
      "\"is_primary\":false,\"is_nullable\":true\x7d") := by
  cbv

end RecordMapper
