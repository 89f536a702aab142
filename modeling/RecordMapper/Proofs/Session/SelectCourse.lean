import Mathlib.Data.List.Perm.Subperm
import RecordMapper.Proofs.Session.Resaved
import RecordMapper.Proofs.Session.Trace

/-!
# The course of a selection

* `Column.ReadFrom`, `Column.Unreadable`, `Record.ReadFrom`: what a record has of its row, and why a
  row is no record.
* `Relation.lookup`, `Session.Resolves`: the call that looks for the peer of a row, where there is
  one, and what its answer leads to.
* `Session.Hydrates`, `Session.Selects`: the calls of a row and of a selection, in their order, and
  the end that they lead to.
* `Operation.course_of_selectRecords`: this is what a selection of records does.
-/

namespace RecordMapper

/-! ## Cells of rows -/

/-- A column is read if it is named, or if none is. -/
def Column.Asked (columns : NameSet) (column : Column) : Prop :=
  columns.isEmpty = true ∨ column.name ∈ columns

/-- What a column has of a row: nothing if it is not read, and else null or the value of a text. -/
inductive Column.ReadFrom (columns : NameSet) (row : Row) (column : Column) : Cell Value → Prop
  | unasked : ¬ column.Asked columns → ReadFrom columns row column .undefined
  | null : column.Asked columns → row.get? column.name = some none →
      ReadFrom columns row column .null
  | value {text : String} {value : Value} : column.Asked columns →
      row.get? column.name = some (some text) → column.kind.read text = .ok value →
      ReadFrom columns row column (.present value)

/-- Why a row has nothing for a column that is read: it lacks the column, or its text is no value.
-/
inductive Column.Unreadable (table : String) (columns : NameSet) (row : Row) (column : Column) :
    Fault → Prop
  | missing : column.Asked columns → row.get? column.name = none →
      Unreadable table columns row column (.rowColumnMissing table column.name)
  | text {text : String} {cause : TextFault} : column.Asked columns →
      row.get? column.name = some (some text) → column.kind.read text = .error cause →
      Unreadable table columns row column (.columnText column.name cause)

/-- A row is no record by the first column that cannot be read. -/
def Schema.Unreadable (schema : Schema) (columns : NameSet) (row : Row) (fault : Fault) : Prop :=
  ∃ before column after, schema.columns = before ++ column :: after ∧
    (∀ other ∈ before, ∃ cell, other.ReadFrom columns row cell) ∧
    column.Unreadable schema.table columns row fault

/-- A record of a schema with the cells of a row. -/
structure Record.ReadFrom (schema : Schema) (columns : NameSet) (row : Row) (record : Record) :
    Prop where
  schema_eq : record.schema = schema
  fields : ∀ field ∈ record.fields, field.1.ReadFrom columns row field.2
  key : record.key = keyOfRow row

section Fields

variable {schema : Schema} {table : String} {columns : NameSet} {row : Row} {column : Column}

theorem Column.ReadFrom.undefined_iff {cell : Cell Value} (h : column.ReadFrom columns row cell) :
    cell = .undefined ↔ ¬ column.Asked columns := by
  cases h with
  | unasked hnot => exact ⟨fun _ => hnot, fun _ => rfl⟩
  | null hasked | value hasked => exact ⟨nofun, fun hnot => absurd hasked hnot⟩

theorem Column.asked_iff :
    (columns.isEmpty || decide (column.name ∈ columns)) = true ↔ column.Asked columns := by
  rw [Bool.or_eq_true, decide_eq_true_iff, Asked]

theorem Record.readFrom_of_fieldOfRow {field : Column × Cell Value}
    (h : fieldOfRow table columns row column = .ok field) :
    field.1.ReadFrom columns row field.2 := by
  have hcolumn := fst_of_fieldOfRow h
  rw [fieldOfRow] at h
  split at h
  · next hread =>
    have hasked := Column.asked_iff.mp hread
    split at h
    · next content hcontent =>
      obtain ⟨cell, hcell, rfl⟩ := map_eq_ok.mp h
      cases content with
      | none =>
        cases hcell
        exact .null hasked hcontent
      | some text =>
        rw [Column.read] at hcell
        split at hcell
        · next value hvalue =>
          cases hcell
          exact .value hasked hcontent hvalue
        · cases hcell
    · cases h
  · next hread =>
    cases h
    exact .unasked fun hasked => hread (Column.asked_iff.mpr hasked)

theorem Record.unreadable_of_fieldOfRow {fault : Fault}
    (h : fieldOfRow table columns row column = .error fault) :
    column.Unreadable table columns row fault := by
  rw [fieldOfRow] at h
  split at h
  · next hread =>
    have hasked := Column.asked_iff.mp hread
    split at h
    · next content hcontent =>
      cases content with
      | none => cases h
      | some text =>
        rw [Column.read] at h
        split at h
        · cases h
        · next cause hcause =>
          cases h
          exact .text hasked hcontent hcause
    · next hnone =>
      cases h
      exact .missing hasked hnone
  · cases h

theorem Record.readFrom_of_ofRow {record : Record} (h : ofRow schema columns row = .ok record) :
    record.ReadFrom schema columns row := by
  obtain ⟨hfields, -, -, hkey⟩ := ofRow_eq_ok.mp h
  refine ⟨schema_of_ofRow h, fun field hfield => ?_, hkey⟩
  obtain ⟨column, -, hread⟩ := exists_of_mem_right (mapM_eq_ok.mp hfields) hfield
  exact readFrom_of_fieldOfRow hread

theorem Record.unreadable_of_ofRow {fault : Fault} (h : ofRow schema columns row = .error fault) :
    schema.Unreadable columns row fault := by
  have hfields : schema.columns.mapM (fieldOfRow schema.table columns row) = .error fault := by
    cases hrun : schema.columns.mapM (fieldOfRow schema.table columns row) with
    | error fault' =>
      rw [ofRow, hrun] at h
      cases h
      rfl
    | ok fields =>
      rw [ofRow, hrun] at h
      cases h
  obtain ⟨before, column, after, hcolumns, hbefore, hfault⟩ := exists_of_mapM_eq_error hfields
  refine ⟨before, column, after, hcolumns, fun other hother => ?_, unreadable_of_fieldOfRow hfault⟩
  obtain ⟨field, hfield⟩ := hbefore other hother
  exact ⟨field.2, fst_of_fieldOfRow hfield ▸ readFrom_of_fieldOfRow hfield⟩

/-- Other links do not change what a record has of its row. -/
theorem Record.ReadFrom.with_links {record : Record} (h : record.ReadFrom schema columns row)
    {links : List (Relation × Cell Record)} (hlinks : links.map Prod.fst = schema.relations) :
    ({ record with links } : Record).ReadFrom schema columns row := by
  refine ⟨?_, h.fields, h.key⟩
  have hschema := h.schema_eq
  rw [← hschema] at hlinks ⊢
  simp only [Record.schema, hlinks]

end Fields

/-! ## Lookups -/

/-- The call that looks for the rows of a table in which a column has a key. -/
def Call.byKey (dialect : Dialect) (table column key : String) : Call :=
  .query ("SELECT * FROM " ++ Dialect.identifier table ++ " WHERE (" ++ Dialect.identifier column ++
    " = " ++ dialect.quoteText key ++ ")")

theorem Call.query_byKey (dialect : Dialect) (table column key : String) :
    .query ((Select.byKey table column key).render dialect) = byKey dialect table column key := by
  rw [byKey]
  congr 1
  simp only [Select.render, Select.byKey, Projection.render, Condition.clause, Condition.render,
    Select.orderClause, Select.pageClause, String.append_assoc, String.append_empty]
  rfl

theorem Reply.eq_done {reply : Reply} {rows : List Row} (h : reply.result = .ok rows) :
    reply = .done rows := by
  cases reply with
  | done rows' => rw [Except.ok.inj h]
  | refused | crashed => cases h

namespace Relation

/-- The key of the peer of a row, or that of the row itself where the peer refers to it. -/
def peerKey? (relation : Relation) (row : Row) : Option String :=
  match relation.side with
  | .left => (row.get? relation.key).join
  | .right => (row.get? instanceKeyColumn).join

/-- The call that looks for the rows of peers by a key. -/
def lookup (dialect : Dialect) (relation : Relation) (key : String) : Call :=
  .byKey dialect relation.targetTable relation.lookupColumn key

/-- The calls that a row needs for a relation: one if the relation is asked for and there is a key.
-/
def lookups (dialect : Dialect) (asked : NameSet) (row : Row) (relation : Relation) : List Call :=
  if relation.key ∈ asked then
    ((relation.peerKey? row).map (relation.lookup dialect)).toList
  else []

/-- What an answer to a lookup gives as the peer. -/
inductive Found (relation : Relation) (target : Schema) : Reply → Except Halt (Cell Record) → Prop
  | halted {reply : Reply} {halt : Halt} : reply.result = .error halt →
      Found relation target reply (.error halt)
  | nobody : Found relation target (.done []) (.ok .null)
  | peer {row : Row} {peer : Record} : peer.ReadFrom target .empty row → peer.Bare →
      Found relation target (.done [row]) (.ok (.present peer))
  | unreadable {row : Row} {fault : Fault} : target.Unreadable .empty row fault →
      Found relation target (.done [row]) (.error (.fault fault))
  | several {rows : List Row} {fault : Fault} : 2 ≤ rows.length →
      fault = .peerCount relation.key target.table rows.length → fault.kind = .runtime →
      Found relation target (.done rows) (.error (.fault fault))

theorem Found.checkPeer {relation : Relation} {target : Schema}
    (htarget : target.table = relation.targetTable) {reply : Reply} {cell : Cell Record}
    (h : relation.Found target reply (.ok cell)) : relation.checkPeer cell = .ok cell := by
  refine checkPeer_eq_ok.mpr ⟨?_, rfl⟩
  rintro peer rfl
  cases h with
  | peer hread _ => exact (congrArg Schema.table hread.schema_eq).trans htarget

end Relation

namespace Session

variable {surroundings : Surroundings}

/-! ## Peers of a row -/

theorem traces_fetchPeer {relation : Relation} {target : Schema}
    (htarget : target.table = relation.targetTable) (key : String) :
    Traces surroundings (fetchPeer target relation relation.lookupColumn key) fun sent result =>
      ∃ reply, sent = [⟨relation.lookup surroundings.catalogue.dialect key, reply⟩] ∧
        relation.Found target reply result := by
  apply traces_dialect_bind
  rw [htarget]
  refine traces_bind (traces_query _ _) ?_ ?_
  · rintro sent halt ⟨reply, rfl, hresult⟩
    rw [Call.query_byKey]
    exact ⟨reply, rfl, .halted hresult.symm⟩
  · rintro sent rows ⟨reply, rfl, hresult⟩
    obtain rfl := Reply.eq_done hresult.symm
    rw [Call.query_byKey]
    split
    · exact traces_pure ⟨_, rfl, .nobody⟩
    · next row =>
      refine traces_lift_bind (fun peer hpeer => traces_pure ?_) fun fault hfault => ?_
      · exact ⟨_, rfl, .peer (Record.readFrom_of_ofRow hpeer) (Record.bare_of_ofRow hpeer)⟩
      · exact ⟨_, rfl, .unreadable (Record.unreadable_of_ofRow hfault)⟩
    · next hnone hone =>
      have hseveral : 2 ≤ rows.length := by
        match rows, hnone, hone with
        | [], hnone, _ => exact absurd rfl hnone
        | [row], _, hone => exact absurd rfl (hone row)
        | _ :: _ :: _, _, _ => exact Nat.le_add_left _ _
      exact traces_fail ⟨_, rfl, .several hseveral (by rw [htarget]) rfl⟩

/-- How the peer of a row in a relation is found. There is a call only if there is a key. -/
inductive Resolves (catalogue : Catalogue) (table : String) (row : Row) (relation : Relation) :
    List Exchange → Except Halt (Cell Record) → Prop
  | missing : relation.side = .left → row.get? relation.key = none →
      Resolves catalogue table row relation []
        (.error (.fault (.rowColumnMissing table relation.key)))
  | absent : relation.side = .left → row.get? relation.key = some none →
      Resolves catalogue table row relation [] (.ok .null)
  | withoutKey : relation.side = .right → relation.peerKey? row = none →
      Resolves catalogue table row relation []
        (.error (.fault (.relationWithoutKey table relation.key)))
  | lookup {key : String} {target : Schema} {reply : Reply} {result : Except Halt (Cell Record)} :
      relation.peerKey? row = some key → catalogue.schema? relation.targetTable = some target →
      relation.Found target reply result →
      Resolves catalogue table row relation [⟨relation.lookup catalogue.dialect key, reply⟩] result

theorem traces_resolve (table : String) (row : Row) {relation : Relation} {target : Schema}
    (htarget : surroundings.catalogue.schema? relation.targetTable = some target) :
    Traces surroundings (resolve table row relation)
      (Resolves surroundings.catalogue table row relation) := by
  have htable := (Catalogue.schema?_eq_some.mp htarget).2
  refine traces_read_bind ?_
  rw [Catalogue.requireTable_eq_ok.mpr htarget, lift, pure_bind]
  have hfetch : ∀ key, relation.peerKey? row = some key →
      Traces surroundings (fetchPeer target relation relation.lookupColumn key)
        (Resolves surroundings.catalogue table row relation) := by
    intro key hkey
    refine traces_mono (traces_fetchPeer htable key) ?_
    rintro _ result ⟨reply, rfl, hfound⟩
    exact .lookup hkey htarget hfound
  cases hside : relation.side with
  | left =>
    have hcolumn : relation.lookupColumn = instanceKeyColumn := by
      rw [Relation.lookupColumn, hside]
    rw [hcolumn] at hfetch
    dsimp only
    split
    · next hnone => exact traces_fail (.missing hside hnone)
    · next hnull => exact traces_pure (.absent hside hnull)
    · next key hkey =>
      refine hfetch key ?_
      rw [Relation.peerKey?, hside, hkey]
      rfl
  | right =>
    have hcolumn : relation.lookupColumn = relation.targetKey := by
      rw [Relation.lookupColumn, hside]
    rw [hcolumn] at hfetch
    have hkeyOf : Record.keyOfRow row = (row.get? instanceKeyColumn).elim .undefined .ofOption := by
      rw [Record.keyOfRow]
      cases row.get? instanceKeyColumn <;> rfl
    have hpeerKey : relation.peerKey? row = (row.get? instanceKeyColumn).join := by
      rw [Relation.peerKey?, hside]
    rw [hkeyOf]
    rcases hget : row.get? instanceKeyColumn with _ | _ | key
    · exact traces_fail (.withoutKey hside (by rw [hpeerKey, hget]; rfl))
    · exact traces_fail (.withoutKey hside (by rw [hpeerKey, hget]; rfl))
    · exact hfetch key (by rw [hpeerKey, hget]; rfl)

theorem Resolves.checkPeer {catalogue : Catalogue} {table : String} {row : Row}
    {relation : Relation} {sent : List Exchange} {cell : Cell Record}
    (h : Resolves catalogue table row relation sent (.ok cell)) :
    relation.checkPeer cell = .ok cell := by
  cases h with
  | absent => rfl
  | lookup _ htarget hfound => exact hfound.checkPeer (Catalogue.schema?_eq_some.mp htarget).2

/-- A relation of a row, which is left alone if it is not asked for. -/
inductive ResolvesAsked (catalogue : Catalogue) (table : String) (asked : NameSet) (row : Row)
    (relation : Relation) : List Exchange → Except Halt (Relation × Cell Record) → Prop
  | unasked : relation.key ∉ asked →
      ResolvesAsked catalogue table asked row relation [] (.ok (relation, .undefined))
  | asked {sent : List Exchange} {result : Except Halt (Cell Record)} : relation.key ∈ asked →
      Resolves catalogue table row relation sent result →
      ResolvesAsked catalogue table asked row relation sent ((relation, ·) <$> result)

theorem traces_resolveAsked {schema : Schema} (hschema : schema ∈ surroundings.catalogue.schemas)
    (asked : NameSet) (row : Row) {relation : Relation} (hrelation : relation ∈ schema.relations) :
    Traces surroundings (resolveAsked schema.table asked row relation)
      (ResolvesAsked surroundings.catalogue schema.table asked row relation) := by
  obtain ⟨target, htarget⟩ := Catalogue.exists_target hschema hrelation
  rw [resolveAsked]
  split
  · next hasked =>
    refine traces_bind (traces_resolve schema.table row htarget) ?_ ?_
    · intro sent halt h
      exact .asked hasked h
    · intro sent cell h
      rw [h.checkPeer, lift, pure_bind]
      refine traces_pure ?_
      rw [List.append_nil]
      exact .asked hasked h
  · next hnot => exact traces_pure (.unasked hnot)

/-! ## Rows and selections -/

/-- What becomes of a row: no record by its first column that cannot be read, or the peers that are
asked for, relation by relation, up to the first that halts. -/
inductive Hydrates (catalogue : Catalogue) (schema : Schema) (columns asked : NameSet) (row : Row) :
    List Exchange → Except Halt Record → Prop
  | unreadable {fault : Fault} : schema.Unreadable columns row fault →
      Hydrates catalogue schema columns asked row [] (.error (.fault fault))
  | halted {record : Record} {sent : List Exchange} {halt : Halt} :
      record.ReadFrom schema columns row →
      InTurn (ResolvesAsked catalogue schema.table asked row) schema.relations sent (.error halt) →
      Hydrates catalogue schema columns asked row sent (.error halt)
  | done {record : Record} {sent : List Exchange} : record.ReadFrom schema columns row →
      InTurn (ResolvesAsked catalogue schema.table asked row) schema.relations sent
        (.ok record.links) →
      Hydrates catalogue schema columns asked row sent (.ok record)

theorem ResolvesAsked.fst_eq {catalogue : Catalogue} {table : String} {asked : NameSet} {row : Row}
    {relation : Relation} {sent : List Exchange} {link : Relation × Cell Record}
    (h : ResolvesAsked catalogue table asked row relation sent (.ok link)) : link.1 = relation := by
  generalize hresult : (.ok link : Except Halt _) = result at h
  cases h with
  | unasked =>
    cases hresult
    rfl
  | asked _ _ =>
    obtain ⟨cell, -, rfl⟩ := map_eq_ok.mp hresult.symm
    rfl

theorem traces_hydrate {schema : Schema} (hschema : schema ∈ surroundings.catalogue.schemas)
    (columns asked : NameSet) (row : Row) :
    Traces surroundings (hydrate schema columns asked row)
      (Hydrates surroundings.catalogue schema columns asked row) := by
  rw [hydrate_eq]
  refine traces_lift_bind (fun record hrecord => ?_) fun fault hfault =>
    .unreadable (Record.unreadable_of_ofRow hfault)
  have hread := Record.readFrom_of_ofRow hrecord
  have hlinks := traces_mapM fun _ hrelation => traces_resolveAsked hschema asked row hrelation
  refine traces_bind hlinks (fun sent halt h => .halted hread h) fun sent links h => ?_
  refine traces_pure ?_
  rw [List.append_nil]
  have hrelations : links.map Prod.fst = schema.relations :=
    map_eq_of_forall₂ h.forall₂ fun _ _ ⟨_, _, hlink⟩ => hlink.fst_eq
  exact .done (hread.with_links hrelations) h

/-- What a selection does: it sends its statement, and if that is done it goes on with the rows, one
after the other up to the first that halts. -/
inductive Selects (catalogue : Catalogue) (schema : Schema) (request : Query) (sql : String) :
    List Exchange → Except Halt (List Record) → Prop
  | halted {reply : Reply} {halt : Halt} : reply.result = .error halt →
      Selects catalogue schema request sql [⟨.query sql, reply⟩] (.error halt)
  | rows {rows : List Row} {sent : List Exchange} {result : Except Halt (List Record)} :
      InTurn (Hydrates catalogue schema request.columns request.relations) rows sent result →
      Selects catalogue schema request sql (⟨.query sql, .done rows⟩ :: sent) result

theorem traces_select {schema : Schema} (hschema : schema ∈ surroundings.catalogue.schemas)
    {request : Query} {select : Select} (hselect : Select.ofQuery schema request = .ok select) :
    Traces surroundings (Session.select schema request)
      (Selects surroundings.catalogue schema request
        (select.render surroundings.catalogue.dialect)) := by
  rw [Session.select, hselect, lift, pure_bind]
  apply traces_dialect_bind
  refine traces_bind (traces_query _ _) ?_ ?_
  · rintro sent halt ⟨reply, rfl, hresult⟩
    exact .halted hresult.symm
  · rintro sent rows ⟨reply, rfl, hresult⟩
    obtain rfl := Reply.eq_done hresult.symm
    refine traces_mono (traces_mapM fun row _ => traces_hydrate hschema _ _ row) ?_
    exact fun more result h => .rows h

/-! ## Planned calls -/

/-- The calls that a row needs, if each goes well. -/
def lookupsOf (catalogue : Catalogue) (schema : Schema) (asked : NameSet) (row : Row) : List Call :=
  schema.relations.flatMap (Relation.lookups catalogue.dialect asked row)

section Plan

variable {catalogue : Catalogue} {schema : Schema} {asked : NameSet} {row : Row}
  {sent : List Exchange}

theorem Resolves.follows {table : String} {relation : Relation} {result : Except Halt (Cell Record)}
    (h : Resolves catalogue table row relation sent result) (hasked : relation.key ∈ asked) :
    Follows (relation.lookups catalogue.dialect asked row) sent result := by
  rw [Relation.lookups, if_pos hasked]
  cases h with
  | missing | withoutKey => exact ⟨List.nil_prefix, nofun⟩
  | absent hside hnull =>
    have hnone : relation.peerKey? row = none := by
      rw [Relation.peerKey?, hside, hnull]
      rfl
    rw [hnone]
    exact ⟨List.prefix_refl _, fun _ _ => rfl⟩
  | lookup hkey =>
    rw [hkey]
    exact ⟨List.prefix_refl _, fun _ _ => rfl⟩

theorem ResolvesAsked.follows {table : String} {relation : Relation}
    {result : Except Halt (Relation × Cell Record)}
    (h : ResolvesAsked catalogue table asked row relation sent result) :
    Follows (relation.lookups catalogue.dialect asked row) sent result := by
  cases h with
  | unasked hnot =>
    rw [Relation.lookups, if_neg hnot]
    exact ⟨List.prefix_refl _, fun _ _ => rfl⟩
  | asked hasked hresolves => exact (hresolves.follows hasked).map _

theorem Hydrates.follows {columns : NameSet} {result : Except Halt Record}
    (h : Hydrates catalogue schema columns asked row sent result) :
    Follows (lookupsOf catalogue schema asked row) sent result := by
  cases h with
  | unreadable => exact ⟨List.nil_prefix, nofun⟩
  | halted _ hlinks =>
    exact ⟨(hlinks.follows fun _ _ _ _ h => h.follows).starts, nofun⟩
  | done _ hlinks =>
    have hfollows := hlinks.follows fun _ _ _ _ h => h.follows
    exact ⟨hfollows.starts, fun _ _ => hfollows.ends _ rfl⟩

/-- A relation needs one call at most, and none if it is not asked for. -/
theorem length_lookups_le (relation : Relation) :
    (relation.lookups catalogue.dialect asked row).length ≤
      if relation.key ∈ asked then 1 else 0 := by
  rw [Relation.lookups]
  split
  · cases relation.peerKey? row with
    | none => exact Nat.zero_le _
    | some key => exact Nat.le_refl _
  · exact Nat.le_refl _

theorem length_lookupsOf_le_countP :
    (lookupsOf catalogue schema asked row).length ≤ schema.relations.countP (·.key ∈ asked) := by
  rw [lookupsOf]
  generalize schema.relations = relations
  induction relations with
  | nil => exact Nat.le_refl 0
  | cons relation rest ih =>
    have hfirst := @length_lookups_le catalogue asked row relation
    rw [List.flatMap_cons, List.length_append, List.countP_cons]
    simp only [decide_eq_true_eq]
    omega

/-- A row needs one call at most for each name that is asked for. -/
theorem length_lookupsOf_le (hconsistent : schema.Consistent) :
    (lookupsOf catalogue schema asked row).length ≤ asked.names.length := by
  have hnodup : ((schema.relations.filter (·.key ∈ asked)).map (·.key)).Nodup :=
    hconsistent.nodup_keys.sublist (List.filter_sublist.map _)
  have hsubset : (schema.relations.filter (·.key ∈ asked)).map (·.key) ⊆ asked.names := by
    intro key hkey
    obtain ⟨relation, hrelation, rfl⟩ := List.mem_map.mp hkey
    exact of_decide_eq_true (List.mem_filter.mp hrelation).2
  calc (lookupsOf catalogue schema asked row).length
      ≤ schema.relations.countP (·.key ∈ asked) := length_lookupsOf_le_countP
    _ = ((schema.relations.filter (·.key ∈ asked)).map (·.key)).length := by
      rw [List.length_map, List.countP_eq_length_filter]
    _ ≤ asked.names.length := (List.subperm_of_subset hnodup hsubset).length_le

theorem length_flatMap_lookupsOf_le (hconsistent : schema.Consistent) (rows : List Row) :
    (rows.flatMap (lookupsOf catalogue schema asked)).length ≤
      rows.length * asked.names.length := by
  induction rows with
  | nil => exact Nat.zero_le _
  | cons row rest ih =>
    have hrow := @length_lookupsOf_le catalogue schema asked row hconsistent
    rw [List.flatMap_cons, List.length_append, List.length_cons, Nat.add_one_mul]
    omega

end Plan

end Session

namespace Operation

open Session

variable {ι : Type} {surroundings : Surroundings}

/-- The calls of a selection and what comes of them. -/
structure SelectCourse (catalogue : Catalogue) (schema : Schema) (request : Query) (sql : String)
    (sent : List Exchange) (result : Except Halt (List Record)) : Prop where
  selects : Selects catalogue schema request sql sent result
  /-- The lookups are those that the rows need, in their order, up to where the selection halts. -/
  follows : ∀ rows lookups, sent = ⟨.query sql, .done rows⟩ :: lookups →
    Follows (rows.flatMap (lookupsOf catalogue schema request.relations)) lookups result
  length_le : ∀ rows lookups, sent = ⟨.query sql, .done rows⟩ :: lookups →
    sent.length ≤ 1 + rows.length * request.relations.names.length
  /-- Each record comes from the row in its place, and from a part of the lookups. -/
  records : ∀ records, result = .ok records → ∃ rows lookups,
    sent = ⟨.query sql, .done rows⟩ :: lookups ∧
      List.Forall₂ (fun row record => ∃ part, part <:+: lookups ∧
        Hydrates catalogue schema request.columns request.relations row part (.ok record))
        rows records
  undefined_iff : ∀ records, result = .ok records → ∀ record ∈ records, ∀ field ∈ record.fields,
    field.2 = .undefined ↔ ¬ field.1.Asked request.columns

theorem selectCourse {catalogue : Catalogue} {schema : Schema}
    (hschema : schema ∈ catalogue.schemas) {request : Query} {sql : String} {sent : List Exchange}
    {result : Except Halt (List Record)} (h : Selects catalogue schema request sql sent result) :
    SelectCourse catalogue schema request sql sent result := by
  have hconsistent := catalogue.consistent.each schema hschema
  have hfollows : ∀ rows lookups, sent = ⟨.query sql, .done rows⟩ :: lookups →
      InTurn (Hydrates catalogue schema request.columns request.relations) rows lookups result := by
    rintro rows lookups rfl
    cases h with
    | halted hreply => cases hreply
    | rows hrows => exact hrows
  have hplan : ∀ rows lookups, sent = ⟨.query sql, .done rows⟩ :: lookups →
      Follows (rows.flatMap (lookupsOf catalogue schema request.relations)) lookups result :=
    fun rows lookups hsent => (hfollows rows lookups hsent).follows fun _ _ _ _ h => h.follows
  have hrecords : ∀ records, result = .ok records → ∃ rows lookups,
      sent = ⟨.query sql, .done rows⟩ :: lookups ∧
        List.Forall₂ (fun row record => ∃ part, part <:+: lookups ∧
          Hydrates catalogue schema request.columns request.relations row part (.ok record))
          rows records := by
    rintro records rfl
    cases h with
    | rows hrows => exact ⟨_, _, rfl, hrows.forall₂⟩
  refine ⟨h, hplan, fun rows lookups hsent => ?_, hrecords, ?_⟩
  · have hstarts := (hplan rows lookups hsent).starts.length_le
    have hle : (rows.flatMap (lookupsOf catalogue schema request.relations)).length ≤ _ :=
      length_flatMap_lookupsOf_le hconsistent rows
    rw [List.length_map] at hstarts
    rw [hsent, List.length_cons]
    omega
  · intro records hresult record hrecord field hfield
    obtain ⟨rows, lookups, -, hall⟩ := hrecords records hresult
    obtain ⟨row, -, part, -, hhydrates⟩ := exists_of_mem_right hall hrecord
    cases hhydrates with
    | done hread _ => exact (hread.fields field hfield).undefined_iff

/-- What a selection of records does in an open connection. -/
theorem course_of_selectRecords (family : ι → EntityDecl ι) {table : String} {request : Query}
    {schema : Schema} (htable : surroundings.catalogue.schema? table = some schema)
    {select : Select} (hselect : Select.ofQuery schema request = .ok select) {world : World}
    (hopen : world.isClosed = false) (hsound : world.isPoisoned = false) :
    ∃ sent result,
      (((selectRecords table request).run family).run surroundings world).1 =
        Answer.records <$> result ∧
      (((selectRecords table request).run family).run surroundings world).2.exchanges =
        world.exchanges ++ sent ∧
      Replied surroundings.store world.exchanges sent ∧
      SelectCourse surroundings.catalogue schema request
        (select.render surroundings.catalogue.dialect) sent result := by
  have hschema := (Catalogue.schema?_eq_some.mp htable).1
  have hcourse : Traces surroundings
      (do return Answer.records (← Session.select (← requireTable table) request) :
        Session (Answer ι)) fun sent answer => ∃ result, answer = Answer.records <$> result ∧
          SelectCourse surroundings.catalogue schema request
            (select.render surroundings.catalogue.dialect) sent result := by
    rw [requireTable, bind_assoc]
    refine traces_read_bind ?_
    rw [Catalogue.requireTable_eq_ok.mpr htable, lift, pure_bind]
    refine traces_bind_pure (traces_mono (traces_select hschema hselect) fun sent result h => ?_)
    exact ⟨result, rfl, selectCourse hschema h⟩
  obtain ⟨sent, hsent, hreplied, result, hresult, hselects⟩ :=
    (hcourse world).guarded hopen hsound
  exact ⟨sent, result, hresult, hsent, hreplied, hselects⟩

/-- A user is read with a profile: two calls, and a peer without peers of its own. -/
theorem course_of_selectRecords_users :
    let surroundings :=
      userSurroundings [⟨[("id", some "2"), ("bio", none), ("__instance_key", some "p")]⟩]
    let request : Query := { relations := NameSet.empty.insert "profile" }
    ∃ sent, Select.ofQuery (users .user).schema request = .ok ⟨"user", .all, none, [], none, none⟩ ∧
      sent.map (·.call) = [.query "SELECT * FROM `user`",
        .query "SELECT * FROM `profile` WHERE (`__instance_key` = 'p')"] ∧
      Replied surroundings.store [] sent ∧
      SelectCourse declaredCatalogue (users .user).schema request "SELECT * FROM `user`" sent
        (.ok [userWith (.present userProfile)]) := by
  intro surroundings request
  have hselect : Select.ofQuery (users .user).schema request =
      .ok ⟨"user", .all, none, [], none, none⟩ := rfl
  have hrecords : (((selectRecords "user" request).run users).run surroundings {}).1 =
      .ok (.records [userWith (.present userProfile)]) :=
    recordsOf?_eq_some.mp (by decide +kernel)
  have hcalls : ((((selectRecords "user" request).run users).run surroundings {}).2.exchanges).map
      (·.call) = [.query "SELECT * FROM `user`",
        .query "SELECT * FROM `profile` WHERE (`__instance_key` = 'p')"] := by
    decide +kernel
  have htext : Select.render .sqlite ⟨"user", .all, none, [], none, none⟩ =
      "SELECT * FROM `user`" := by decide +kernel
  have htable : surroundings.catalogue.schema? "user" = some (users .user).schema := rfl
  obtain ⟨sent, result, hresult, hsent, hreplied, hcourse⟩ :=
    @course_of_selectRecords _ surroundings users _ request _ htable _ hselect {} rfl rfl
  rw [List.nil_append] at hsent
  rw [hrecords] at hresult
  obtain ⟨records, rfl, hsame⟩ := map_eq_ok.mp hresult.symm
  obtain rfl := Answer.records.inj hsame
  exact ⟨sent, hselect, hsent ▸ hcalls, hreplied, htext ▸ hcourse⟩

end Operation

end RecordMapper
