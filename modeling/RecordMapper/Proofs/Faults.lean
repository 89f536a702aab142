import RecordMapper.Proofs.Registry
import RecordMapper.Session.Connection

/-!
# Kinds of faults

What is checked before a statement is sent fails with invalid arguments only, and what is read from
a row fails at runtime only.

* `Select.fails_ofQuery`, `Insert.fails_ofRecord`, `Update.fails_ofRecord`, `Delete.fails_ofQuery`:
  statements that cannot be made.
* `Catalogue.fails_requireTable`, `Catalogue.fails_requireLayout`, `Record.fails_ownRow`: tables and
  rows that are not there.
* `Record.fails_ofRow`: rows that are no records.
-/

namespace RecordMapper

open Registry (IsInvalidArgument)

/-! ## Statements -/

namespace Schema

theorem fails_requireColumn (schema : Schema) (name : String) :
    Fails (schema.requireColumn name) IsInvalidArgument := by
  rw [requireColumn]
  split
  · exact fails_ok
  · exact fails_error rfl

theorem fails_requireRelation (schema : Schema) (key : String) :
    Fails (schema.requireRelation key) IsInvalidArgument := by
  rw [requireRelation]
  split
  · exact fails_ok
  · exact fails_error rfl

end Schema

theorem Operator.fails_ofToken (token : String) : Fails (ofToken token) IsInvalidArgument := by
  rw [ofToken]
  split
  · exact fails_ok
  · exact fails_error rfl

theorem Predicate.fails_check (schema : Schema) (predicate : Predicate) :
    Fails (predicate.check schema) IsInvalidArgument := by
  induction predicate with
  | compare comparison =>
    refine fails_bind (schema.fails_requireColumn _) fun _ => ?_
    exact fails_bind (Operator.fails_ofToken _) fun _ => fails_ok
  | logic connective left right ihl ihr =>
    exact fails_bind ihl fun _ => fails_bind ihr fun _ => fails_ok

namespace Query

theorem fails_condition (schema : Schema) (query : Query) :
    Fails (query.condition schema) IsInvalidArgument := by
  rw [condition]
  split
  · exact fails_map (Predicate.fails_check schema _)
  · exact fails_ok

theorem fails_mutationFilter (schema : Schema) (mutation : Mutation) (query : Query) :
    Fails (query.mutationFilter schema mutation) IsInvalidArgument := by
  rw [mutationFilter]
  split
  · exact query.fails_condition schema
  · exact fails_error rfl

end Query

theorem Select.fails_ofQuery (schema : Schema) (query : Query) :
    Fails (ofQuery schema query) IsInvalidArgument := by
  refine fails_bind (fails_forM _ fun name => ?_) fun _ => ?_
  · exact fails_map (schema.fails_requireColumn name)
  refine fails_bind (fails_forM _ fun key => ?_) fun _ => ?_
  · exact fails_map (schema.fails_requireRelation key)
  refine fails_bind (query.fails_condition schema) fun _ => ?_
  refine fails_bind (fails_forM _ fun entry => ?_) fun _ => fails_ok
  exact fails_map (schema.fails_requireColumn entry.column)

theorem Delete.fails_ofQuery (schema : Schema) (query : Query) :
    Fails (ofQuery schema query) IsInvalidArgument :=
  fails_bind (query.fails_mutationFilter schema .delete) fun _ => fails_ok

theorem Entry.fails_ofLink? (link : Relation × Cell Record) :
    Fails (ofLink? link) IsInvalidArgument := by
  rw [ofLink?]
  split
  · split
    · exact fails_ok
    · exact fails_ok
    · split
      · exact fails_ok
      · exact fails_error rfl
  · exact fails_ok

theorem Relation.fails_checkPeer (relation : Relation) (cell : Cell Record) :
    Fails (relation.checkPeer cell) IsInvalidArgument := by
  cases cell with
  | undefined | null => exact fails_ok
  | present peer =>
    refine fails_map ?_
    dsimp only
    split
    · exact fails_ok
    · exact fails_error rfl

theorem Record.fails_linkEntries (record : Record) :
    Fails record.linkEntries IsInvalidArgument :=
  fails_map (fails_mapM fun link _ => Entry.fails_ofLink? link)

theorem Insert.fails_ofRecord (record : Record) : Fails (ofRecord record) IsInvalidArgument := by
  refine fails_bind (fails_mapM fun field _ => ?_) fun _ => ?_
  · rw [fieldEntry]
    split
    · exact fails_ok
    · split
      · exact fails_error rfl
      · exact fails_ok
  refine fails_bind ?_ fun _ => fails_bind record.fails_linkEntries fun _ => fails_ok
  rw [keyEntry]
  split
  · exact fails_ok
  · exact fails_error rfl
  · exact fails_ok

theorem Update.fails_ofRecord (record : Record) (query : Query) :
    Fails (ofRecord record query) IsInvalidArgument := by
  refine fails_bind (query.fails_mutationFilter _ .update) fun _ => ?_
  refine fails_bind (fails_mapM fun field _ => ?_) fun _ => ?_
  · rw [fieldEntry]
    split
    · exact fails_ok
    · split
      · exact fails_error rfl
      · exact fails_ok
  refine fails_bind record.fails_linkEntries fun _ => ?_
  split
  · exact fails_error rfl
  · exact fails_ok

/-! ## Tables and rows -/

namespace Record

theorem fails_setKey (record : Record) (key : String) :
    Fails (record.setKey key) IsInvalidArgument := by
  rw [setKey]
  split
  · exact fails_ok
  · exact fails_error rfl

theorem fails_cell (record : Record) (name : String) :
    Fails (record.cell name) IsInvalidArgument := by
  rw [cell]
  split
  · exact fails_ok
  · exact fails_error rfl

theorem fails_ownRow (record : Record) : Fails record.ownRow IsInvalidArgument := by
  rw [ownRow]
  split
  · exact fails_error rfl
  · refine fails_bind (record.fails_cell _) fun cell => ?_
    split
    · exact fails_ok
    · exact fails_error rfl

end Record

namespace Catalogue

theorem fails_requireTable (catalogue : Catalogue) (table : String) :
    Fails (catalogue.requireTable table) IsInvalidArgument := by
  rw [requireTable]
  split
  · exact fails_ok
  · exact fails_error rfl

theorem fails_requireLayout (catalogue : Catalogue) (schema : Schema) :
    Fails (catalogue.requireLayout schema) IsInvalidArgument := by
  refine fails_bind (catalogue.fails_requireTable _) fun registered => ?_
  split
  · exact fails_ok
  · exact fails_error rfl

end Catalogue

/-! ## Rows that are no records -/

theorem Column.fails_read (column : Column) (text : Option String) :
    Fails (column.read text) fun fault => ∃ cause, fault = .columnText column.name cause := by
  cases text with
  | none => exact fails_ok
  | some text =>
    rw [read]
    split
    · exact fails_ok
    · exact fails_error ⟨_, rfl⟩

theorem Record.fails_ofRow (schema : Schema) (columns : NameSet) (row : Row) :
    Fails (ofRow schema columns row) (·.kind = .runtime) := by
  refine fails_bind (fails_mapM fun column _ => ?_) fun _ => fails_ok
  rw [fieldOfRow]
  split
  · split
    · apply fails_map
      refine fails_mono (column.fails_read _) ?_
      rintro _ ⟨cause, rfl⟩
      rfl
    · exact fails_error rfl
  · exact fails_ok

end RecordMapper
