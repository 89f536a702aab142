import RecordMapper.Proofs.Session.Fetch
import RecordMapper.Proofs.Session.Typed
import RecordMapper.Proofs.Statement.Change
import RecordMapper.Proofs.Statement.Write

/-!
# Records that are read and written again

* `Session.Yields`: what a run gives, together with the exchanges that it adds.
* `Kept`, `Session.yields_hydrate`: what the record of a row keeps of it, in a store that answers
  lookups by their key.
* `WritesBack`, `Operation.writesBack_of_selectRecords`: a change of rows to a record that was read
  writes what the row of the record has, but for the keys of peers that are not there.
-/

namespace RecordMapper

namespace Session

variable {α β : Type} {surroundings : Surroundings} {P : α → List Exchange → Prop}

/-! ## Results and exchanges -/

/-- What a run gives satisfies `P`, together with the exchanges that the run adds. -/
def Yields (surroundings : Surroundings) (session : Session α) (P : α → List Exchange → Prop) :
    Prop :=
  Leaves surroundings session fun result added => ∀ a, result = .ok a → P a added.exchanges

theorem yields_pure {a : α} (h : P a []) : Yields surroundings (pure a) P := by
  apply leaves_pure
  rintro _ ⟨⟩
  exact h

theorem yields_fail (fault : Fault) : Yields surroundings (fail fault) P :=
  leaves_fail nofun

theorem yields_mono {x : Session α} {R : α → List Exchange → Prop} (h : Yields surroundings x P)
    (hPR : ∀ a sent, P a sent → R a sent) : Yields surroundings x R :=
  leaves_mono h fun _ _ hend a hresult => hPR a _ (hend a hresult)

theorem yields_bind {x : Session α} {f : α → Session β} {R : β → List Exchange → Prop}
    (hx : Yields surroundings x P)
    (hf : ∀ a sent, P a sent → Yields surroundings (f a) fun b more => R b (sent ++ more)) :
    Yields surroundings (x >>= f) R := by
  refine leaves_bind hx (fun _ _ _ => nofun) fun a added h => ?_
  exact leaves_mono (hf a added.exchanges (h a rfl)) fun _ _ hend => hend

theorem yields_lift_bind {result : Except Fault β} {f : β → Session α}
    (h : ∀ b, result = .ok b → Yields surroundings (f b) P) :
    Yields surroundings (lift result >>= f) P := by
  cases result with
  | ok b => exact h b rfl
  | error fault => exact yields_fail fault

theorem yields_read_bind {f : Surroundings → Session α}
    (h : Yields surroundings (f surroundings) P) : Yields surroundings (read >>= f) P :=
  h

theorem yields_dialect_bind {f : Dialect → Session α}
    (h : Yields surroundings (f surroundings.catalogue.dialect) P) :
    Yields surroundings (dialect >>= f) P :=
  h

/-- The rows of a query are an answer of the store. -/
theorem yields_query (table : Option String) (sql : String) :
    Yields surroundings (query table sql) fun rows sent => sent = [⟨.query sql, .done rows⟩] ∧
      ∃ history, surroundings.store history (.query sql) = .done rows := by
  have hrecord : Yields surroundings (record (.queryExecuted table sql)) fun _ sent => sent = [] :=
    leaves_record fun _ _ => rfl
  refine yields_bind hrecord fun _ sent hsent world => ?_
  refine ⟨⟨[⟨.query sql, surroundings.store world.exchanges (.query sql)⟩], []⟩, ?_, ?_⟩
  · rw [run_send]
    exact ⟨rfl, (List.append_nil _).symm⟩
  · rw [run_send, hsent]
    intro rows hrows
    have hreply : surroundings.store world.exchanges (.query sql) = .done rows := by
      cases hstore : surroundings.store world.exchanges (.query sql) with
      | done rows' =>
        rw [hstore] at hrows
        rw [Except.ok.inj hrows]
      | refused | crashed =>
        rw [hstore] at hrows
        cases hrows
    rw [hreply]
    exact ⟨rfl, world.exchanges, hreply⟩

/-- What is known of each member stays known as exchanges are added. -/
theorem yields_mapM {R : β → α → List Exchange → Prop} {f : β → Session α} {ys : List β}
    (hmono : ∀ y a sent more, R y a sent → sent ⊆ more → R y a more)
    (hf : ∀ y ∈ ys, Yields surroundings (f y) (R y)) :
    Yields surroundings (ys.mapM f) fun as sent =>
      List.Forall₂ (fun y a => R y a sent) ys as := by
  induction ys with
  | nil => exact yields_pure .nil
  | cons y ys ih =>
    obtain ⟨hy, hys⟩ := List.forall_mem_cons.mp hf
    rw [List.mapM_cons]
    refine yields_bind hy fun a sent ha => yields_bind (ih hys) fun as more has => yields_pure ?_
    -- either part of what was sent is part of the whole
    rw [List.append_nil]
    refine .cons (hmono _ _ _ _ ha (List.subset_append_left _ _)) ?_
    exact has.imp fun _ _ hR => hmono _ _ _ _ hR (List.subset_append_right _ _)

theorem yields_guarded {operation : String} {table : Option String} {session : Session α}
    (h : Yields surroundings session P) :
    Yields surroundings (guarded operation table session) P :=
  leaves_guarded (Q := fun result sent => ∀ a, result = .ok a → P a sent) nofun nofun h

end Session

/-! ## Lookups by key -/

def keyLookup (dialect : Dialect) (target : Schema) (key : String) : Call :=
  .query ((Select.byKey target.table instanceKeyColumn key).render dialect)

/-- The store answers a lookup by key with rows of this key only. -/
def Surroundings.Keyed (surroundings : Surroundings) : Prop :=
  ∀ target ∈ surroundings.catalogue.schemas, ∀ key history rows,
    surroundings.store history (keyLookup surroundings.catalogue.dialect target key) =
        .done rows →
      ∀ row ∈ rows, row.get? instanceKeyColumn = some (some key)

namespace SqlReader

/-- Takes a lookup by key, up to the key. -/
def lookup (dialect : Dialect) : SqlReader (String × String) := do
  symbol "SELECT * FROM "
  let table ← name
  symbol " WHERE ("
  let _ ← name
  symbol " = "
  return (table, ← quoted dialect)

/-- The table and the key that a call looks for. -/
def lookup? (dialect : Dialect) : Call → Option (String × String)
  | .query sql => ((lookup dialect).run sql.toList).map Prod.fst
  | _ => none

theorem lookup?_keyLookup (dialect : Dialect) {target : Schema} (htable : Quotable target.table)
    (key : String) : lookup? dialect (keyLookup dialect target key) = some (target.table, key) := by
  have htext : ((Select.byKey target.table instanceKeyColumn key).render dialect).toList =
      "SELECT * FROM ".toList ++ ((Dialect.identifier target.table).toList ++
        (" WHERE (".toList ++ ((Dialect.identifier instanceKeyColumn).toList ++ (" = ".toList ++
          ((dialect.quoteText key).toList ++ ")".toList))))) := by
    simp only [Select.render, Select.byKey, Projection.render, Condition.clause, Condition.render,
      Select.orderClause, Select.pageClause, String.toList_append, List.append_assoc]
    rfl
  have hcolumn : Quotable instanceKeyColumn := by decide
  have hwhere : ∀ rest, Ends (" WHERE (".toList ++ rest) := fun rest => ends_of_isEnding rfl rest
  have hequals : ∀ rest, Ends (" = ".toList ++ rest) := fun rest => ends_of_isEnding rfl rest
  have hclose : Ends ")".toList := List.append_nil ")".toList ▸ ends_of_isEnding rfl []
  rw [keyLookup, lookup?, htext, lookup, run_bind_of (run_symbol _ _),
    run_bind_of (run_name htable (hwhere _)), run_bind_of (run_symbol _ _),
    run_bind_of (run_name hcolumn (hequals _)), run_bind_of (run_symbol _ _),
    run_bind_of (run_quoted dialect key hclose)]
  rfl

end SqlReader

/-- A store that answers lookups by key from its tables, and anything else with the same rows. -/
def keyedStore (dialect : Dialect) (tables : String → List Row) (others : List Row) : Store :=
  fun _ call =>
    match SqlReader.lookup? dialect call with
    | some (table, key) =>
      .done ((tables table).filter (·.get? instanceKeyColumn == some (some key)))
    | none => .done others

theorem keyed_keyedStore (catalogue : Catalogue) (tables : String → List Row)
    (others : List Row) (draws : Nat → BitVec 128) :
    Surroundings.Keyed ⟨catalogue, keyedStore catalogue.dialect tables others, draws⟩ := by
  intro target htarget key history rows hrows row hrow
  have htable := (catalogue.consistent.quotable htarget).table
  dsimp only at hrows
  rw [keyedStore, SqlReader.lookup?_keyLookup catalogue.dialect htable] at hrows
  cases hrows
  exact beq_iff_eq.mp (List.mem_filter.mp hrow).2

/-! ## What a record keeps of a row -/

/-- A column that was read holds what the row has there. -/
def FieldKept (row : Row) (field : Column × Cell Value) : Prop :=
  field.2 = .undefined ∨
    ∃ content, row.get? field.1.name = some content ∧ field.1.read content = .ok field.2

/-- The row has a key in a relation, and a lookup of this key has found no row. -/
def Dangling (catalogue : Catalogue) (row : Row) (exchanges : List Exchange)
    (relation : Relation) : Prop :=
  ∃ target key, row.get? relation.key = some (some key) ∧
    catalogue.schema? relation.targetTable = some target ∧
    ⟨keyLookup catalogue.dialect target key, .done []⟩ ∈ exchanges

/-- A relation with a column of its own leads to the peer whose key the row has there. There is no
peer if the row has no key, or if a lookup has found none. -/
inductive LinkKept (catalogue : Catalogue) (row : Row) (exchanges : List Exchange) :
    Relation × Cell Record → Prop
  | unasked (relation : Relation) : LinkKept catalogue row exchanges (relation, .undefined)
  | mirrored {relation : Relation} (peer : Cell Record) : relation.ownsColumn = false →
      LinkKept catalogue row exchanges (relation, peer)
  | absent {relation : Relation} : row.get? relation.key = some none →
      LinkKept catalogue row exchanges (relation, .null)
  | found {relation : Relation} {peer : Record} {key : String} :
      row.get? relation.key = some (some key) → peer.key = .present key →
      LinkKept catalogue row exchanges (relation, .present peer)
  | dangling {relation : Relation} : Dangling catalogue row exchanges relation →
      LinkKept catalogue row exchanges (relation, .null)

structure Kept (catalogue : Catalogue) (schema : Schema) (row : Row) (exchanges : List Exchange)
    (record : Record) : Prop where
  schema_eq : record.schema = schema
  fields : ∀ field ∈ record.fields, FieldKept row field
  links : ∀ link ∈ record.links, LinkKept catalogue row exchanges link

section Mono

variable {catalogue : Catalogue} {schema : Schema} {row : Row} {sent more : List Exchange}

theorem Dangling.mono {relation : Relation} (h : Dangling catalogue row sent relation)
    (hsub : sent ⊆ more) : Dangling catalogue row more relation := by
  obtain ⟨target, key, hrow, htarget, hmem⟩ := h
  exact ⟨target, key, hrow, htarget, hsub hmem⟩

theorem LinkKept.mono {link : Relation × Cell Record} (h : LinkKept catalogue row sent link)
    (hsub : sent ⊆ more) : LinkKept catalogue row more link := by
  cases h with
  | unasked relation => exact .unasked relation
  | mirrored peer hright => exact .mirrored peer hright
  | absent hrow => exact .absent hrow
  | found hrow hkey => exact .found hrow hkey
  | dangling hdangling => exact .dangling (hdangling.mono hsub)

theorem Kept.mono {record : Record} (h : Kept catalogue schema row sent record)
    (hsub : sent ⊆ more) : Kept catalogue schema row more record :=
  ⟨h.schema_eq, h.fields, fun link hlink => (h.links link hlink).mono hsub⟩

end Mono

theorem Record.fieldKept_of_fieldOfRow {table : String} {columns : NameSet} {row : Row}
    {column : Column} {field : Column × Cell Value}
    (h : fieldOfRow table columns row column = .ok field) : FieldKept row field := by
  rw [fieldOfRow] at h
  split at h
  · split at h
    · next content hrow =>
      obtain ⟨cell, hread, rfl⟩ := map_eq_ok.mp h
      exact .inr ⟨content, hrow, hread⟩
    · cases h
  · cases h
    exact .inl rfl

namespace Session

variable {surroundings : Surroundings}

/-- A lookup finds nothing, or a peer with the key of the one row that the store has found. -/
theorem yields_fetchPeer (target : Schema) (relation : Relation) (column key : String) :
    let sql := (Select.byKey target.table column key).render surroundings.catalogue.dialect
    Yields surroundings (fetchPeer target relation column key) fun cell sent =>
      cell = .null ∧ ⟨.query sql, .done []⟩ ∈ sent ∨
        ∃ peer row history, cell = .present peer ∧ peer.key = Record.keyOfRow row ∧
          surroundings.store history (.query sql) = .done [row] := by
  intro sql
  refine yields_dialect_bind (yields_bind (yields_query _ _) ?_)
  rintro rows _ ⟨rfl, history, hstore⟩
  split
  · exact yields_pure (.inl ⟨rfl, List.mem_append_left _ (List.mem_singleton.mpr rfl)⟩)
  · next row =>
    refine yields_lift_bind fun peer hpeer => yields_pure (.inr ?_)
    exact ⟨peer, row, history, rfl, (Record.ofRow_eq_ok.mp hpeer).2.2.2, hstore⟩
  · exact yields_fail _

theorem yields_resolve (hkeyed : surroundings.Keyed) (table : String) (row : Row)
    (relation : Relation) :
    Yields surroundings (resolve table row relation) fun peer sent =>
      LinkKept surroundings.catalogue row sent (relation, peer) := by
  refine yields_read_bind (yields_lift_bind fun target htarget => ?_)
  have htarget := Catalogue.requireTable_eq_ok.mp htarget
  cases hside : relation.side with
  | left =>
    dsimp only
    split
    · exact yields_fail _
    · next hrow => exact yields_pure (.absent hrow)
    · next key hrow =>
      refine yields_mono (yields_fetchPeer target relation instanceKeyColumn key) ?_
      rintro peer sent (⟨rfl, hmem⟩ | ⟨peer, found, history, rfl, hkey, hstore⟩)
      · exact .dangling ⟨target, key, hrow, htarget, hmem⟩
      · -- the row that was found has the key that was looked for, and so has its record
        have hregistered := (Catalogue.schema?_eq_some.mp htarget).1
        have hfound := hkeyed target hregistered key history _ hstore found List.mem_cons_self
        refine .found hrow (hkey.trans ?_)
        rw [Record.keyOfRow, hfound]
        rfl
  | right =>
    have hright : relation.ownsColumn = false := by
      rw [Relation.ownsColumn, hside]
      rfl
    dsimp only
    split
    · exact yields_mono (yields_fetchPeer _ _ _ _) fun peer _ _ => .mirrored peer hright
    · exact yields_fail _

theorem yields_resolveAsked (hkeyed : surroundings.Keyed) (table : String) (relations : NameSet)
    (row : Row) (relation : Relation) :
    Yields surroundings (resolveAsked table relations row relation) fun link sent =>
      link.1 = relation ∧ LinkKept surroundings.catalogue row sent link := by
  rw [resolveAsked]
  split
  · refine yields_bind (yields_resolve hkeyed table row relation) fun peer sent hpeer => ?_
    refine yields_lift_bind fun checked hchecked => yields_pure ?_
    obtain ⟨-, rfl⟩ := Relation.checkPeer_eq_ok.mp hchecked
    rw [List.append_nil]
    exact ⟨rfl, hpeer⟩
  · exact yields_pure ⟨rfl, .unasked relation⟩

theorem yields_hydrate (hkeyed : surroundings.Keyed) (schema : Schema)
    (columns relations : NameSet) (row : Row) :
    Yields surroundings (hydrate schema columns relations row) fun record sent =>
      Kept surroundings.catalogue schema row sent record := by
  rw [hydrate_eq]
  refine yields_lift_bind fun record hrecord => ?_
  obtain ⟨hfields, htable, -, -⟩ := Record.ofRow_eq_ok.mp hrecord
  have heach : ∀ relation ∈ schema.relations,
      Yields surroundings (resolveAsked schema.table relations row relation) fun link sent =>
        link.1 = relation ∧ LinkKept surroundings.catalogue row sent link :=
    fun relation _ => yields_resolveAsked hkeyed schema.table relations row relation
  have hlinks := yields_mapM (fun _ _ _ _ h hsub => ⟨h.1, h.2.mono hsub⟩) heach
  refine yields_bind hlinks fun links sent hall => yields_pure ?_
  rw [List.append_nil]
  have hrelations : links.map Prod.fst = schema.relations :=
    map_eq_of_forall₂ hall fun _ _ h => h.1
  refine ⟨Record.schema_with_links hrecord hrelations, fun field hfield => ?_,
    fun link hlink => ?_⟩
  · obtain ⟨column, -, hfield⟩ := exists_of_mem_right (mapM_eq_ok.mp hfields) hfield
    exact Record.fieldKept_of_fieldOfRow hfield
  · obtain ⟨relation, -, -, hlink⟩ := exists_of_mem_right hall hlink
    exact hlink

/-- A selection sends its query first, and its records are those of the rows that come. -/
theorem yields_select (hkeyed : surroundings.Keyed) (schema : Schema) (request : Query) :
    Yields surroundings (select schema request) fun records sent =>
      ∃ select rows rest, Select.ofQuery schema request = .ok select ∧
        sent = ⟨.query (select.render surroundings.catalogue.dialect), .done rows⟩ :: rest ∧
        List.Forall₂ (fun row record => Kept surroundings.catalogue schema row rest record)
          rows records := by
  refine yields_lift_bind fun statement hstatement => yields_dialect_bind ?_
  refine yields_bind (yields_query _ _) ?_
  rintro rows _ ⟨rfl, -⟩
  have heach : ∀ row ∈ rows,
      Yields surroundings (hydrate schema request.columns request.relations row) fun record sent =>
        Kept surroundings.catalogue schema row sent record :=
    fun row _ => yields_hydrate hkeyed schema request.columns request.relations row
  refine yields_mono (yields_mapM ?_ heach) fun records sent hall =>
    ⟨statement, rows, sent, hstatement, rfl, hall⟩
  exact fun _ _ _ _ hkept hsub => hkept.mono hsub

end Session

/-! ## What is written again -/

/-- The literal that stands for what a row has in a column of a type: null for null, the number for
a numeral, and any text for itself. -/
inductive ValueType.Denotes : ValueType → Option String → Literal → Prop
  | null (type : ValueType) : Denotes type none .null
  | number {type : ValueType} {text : String} {n : Int} : type ≠ .text →
      Decimal.Numeral text.toList n → Denotes type (some text) (.integer n)
  | text (content : String) : Denotes .text (some content) (.text content)

theorem ColumnKind.denotes_of_read {kind : ColumnKind} {text : String} {value : Value}
    (h : kind.read text = .ok value) : kind.valueType.Denotes (some text) value.literal := by
  cases kind with
  | int32 | primary | uint32 =>
    obtain ⟨-, n, hliteral, hspells⟩ := (read_eq_ok (by decide)).mp h
    rw [hliteral]
    exact .number (by decide) hspells.1
  | varchar maxLength =>
    rw [read] at h
    split at h
    · cases h
      exact .text text
    · cases h

theorem Column.denotes_of_read {column : Column} {content : Option String} {cell : Cell Value}
    {literal : Literal} (h : column.read content = .ok cell)
    (hliteral : cell.literal? = some literal) :
    column.kind.valueType.Denotes content literal := by
  cases content with
  | none =>
    cases h
    cases hliteral
    exact .null _
  | some text =>
    rw [read] at h
    split at h
    · next value hread =>
      cases h
      cases hliteral
      exact ColumnKind.denotes_of_read hread
    · cases h

/-- An entry writes what the row has in a declared column, or in the column of a relation. The key
of a peer that is not there is lost. -/
inductive Restored (catalogue : Catalogue) (schema : Schema) (row : Row)
    (exchanges : List Exchange) : Entry → Prop
  | column {column : Column} {content : Option String} {literal : Literal} :
      column ∈ schema.columns → row.get? column.name = some content →
      column.kind.valueType.Denotes content literal →
      Restored catalogue schema row exchanges ⟨column.name, literal⟩
  | relation {relation : Relation} {content : Option String} {literal : Literal} :
      relation ∈ schema.ownedRelations → row.get? relation.key = some content →
      ValueType.text.Denotes content literal →
      Restored catalogue schema row exchanges ⟨relation.key, literal⟩
  | dangling {relation : Relation} : relation ∈ schema.ownedRelations →
      Dangling catalogue row exchanges relation →
      Restored catalogue schema row exchanges ⟨relation.key, .null⟩

/-- Whatever change of rows to a record is made, its text writes what a row of the schema has. -/
def WritesBack (catalogue : Catalogue) (schema : Schema) (exchanges : List Exchange) (row : Row)
    (record : Record) : Prop :=
  record.schema = schema ∧
    ∀ (dialect : Dialect) (request : Query) (update : Update),
      Update.ofRecord record request = .ok update →
        ∃ entries, Update.assignments? dialect (update.render dialect) = some entries ∧
          ∀ entry ∈ entries, Restored catalogue schema row exchanges entry

section Kept

variable {catalogue : Catalogue} {schema : Schema} {row : Row} {exchanges : List Exchange}
  {entry : Entry}

theorem FieldKept.restored {field : Column × Cell Value} (h : FieldKept row field)
    (hcolumn : field.1 ∈ schema.columns) (hentry : entryOfField? field = some entry) :
    Restored catalogue schema row exchanges entry := by
  rw [entryOfField?] at hentry
  split at hentry
  · cases hentry
  · obtain ⟨literal, hliteral, rfl⟩ := Option.map_eq_some_iff.mp hentry
    rcases h with hundefined | ⟨content, hrow, hread⟩
    · rw [hundefined] at hliteral
      cases hliteral
    · exact .column hcolumn hrow (Column.denotes_of_read hread hliteral)

theorem LinkKept.restored {link : Relation × Cell Record}
    (h : LinkKept catalogue row exchanges link) (hrelation : link.1 ∈ schema.relations)
    (hentry : entryOfLink? link = some entry) :
    Restored catalogue schema row exchanges entry := by
  have howns := (name_of_entryOfLink? hentry).1
  have howned : link.1 ∈ schema.ownedRelations := List.mem_filter.mpr ⟨hrelation, howns⟩
  rw [entryOfLink?, if_pos howns] at hentry
  cases h with
  | unasked relation => cases hentry
  | mirrored peer hright => exact absurd howns (hright ▸ Bool.false_ne_true)
  | absent hrow =>
    cases hentry
    exact .relation howned hrow (.null _)
  | found hrow hkey =>
    rw [peerKey, hkey] at hentry
    cases hentry
    exact .relation howned hrow (.text _)
  | dangling hdangling =>
    cases hentry
    exact .dangling howned hdangling

theorem Kept.writesBack (hschema : schema ∈ catalogue.schemas) {record : Record}
    (h : Kept catalogue schema row exchanges record) :
    WritesBack catalogue schema exchanges row record := by
  refine ⟨h.schema_eq, fun dialect request update hupdate => ?_⟩
  obtain ⟨-, -, -, htable, hentries, hne⟩ := Update.ofRecord_eq_ok.mp hupdate
  have hquotable : record.schema.NamesQuotable :=
    catalogue.consistent.quotable (h.schema_eq ▸ hschema)
  have hnames : ∀ entry ∈ update.entries, Quotable entry.name := fun entry hentry =>
    hquotable.storedNames _ (Update.mem_storedNames_of_ofRecord hupdate hentry)
  have hread := Update.assignments?_render dialect (htable ▸ hquotable.table) hnames hne
  refine ⟨update.entries, hread, fun entry hentry => ?_⟩
  rw [hentries] at hentry
  rcases List.mem_append.mp hentry with hcolumn | hpeer
  · obtain ⟨field, hfield, hwritten⟩ := List.mem_filterMap.mp hcolumn
    have hdeclared : field.1 ∈ record.schema.columns := List.mem_map_of_mem hfield
    exact (h.fields field hfield).restored (h.schema_eq ▸ hdeclared) hwritten
  · obtain ⟨link, hlink, hwritten⟩ := List.mem_filterMap.mp hpeer
    have hdeclared : link.1 ∈ record.schema.relations := List.mem_map_of_mem hlink
    exact (h.links link hlink).restored (h.schema_eq ▸ hdeclared) hwritten

end Kept

/-! ## Records that were selected -/

namespace Operation

open Session

variable {ι : Type} {surroundings : Surroundings}

/-- In a store that answers lookups by their key, whatever change of rows to a record that was
selected is made, without a change of the record, its text writes what the row of the record had.
The key of a peer is an exception if the selection has looked for the peer and found none. -/
theorem writesBack_of_selectRecords (hkeyed : surroundings.Keyed) (family : ι → EntityDecl ι)
    {table : String} {request : Query} (world : World) {records : List Record}
    (h : (((selectRecords table request).run family).run surroundings world).1 =
      .ok (.records records)) :
    ∃ schema select rows rest, surroundings.catalogue.schema? table = some schema ∧
      Select.ofQuery schema request = .ok select ∧
      (((selectRecords table request).run family).run surroundings world).2.exchanges =
        world.exchanges ++
          ⟨.query (select.render surroundings.catalogue.dialect), .done rows⟩ :: rest ∧
      List.Forall₂ (WritesBack surroundings.catalogue schema rest) rows records := by
  have hyields : Yields surroundings ((selectRecords table request).run family)
      fun (answer : Answer ι) sent => ∀ records, answer = .records records →
        ∃ schema select rows rest, surroundings.catalogue.schema? table = some schema ∧
          Select.ofQuery schema request = .ok select ∧
          sent = ⟨.query (select.render surroundings.catalogue.dialect), .done rows⟩ :: rest ∧
          List.Forall₂ (WritesBack surroundings.catalogue schema rest) rows records := by
    refine yields_guarded ?_
    rw [requireTable, bind_assoc]
    refine yields_read_bind (yields_lift_bind fun schema hfound => ?_)
    have hfound := Catalogue.requireTable_eq_ok.mp hfound
    have hschema := (Catalogue.schema?_eq_some.mp hfound).1
    refine yields_bind (yields_select hkeyed schema request) ?_
    rintro records _ ⟨select, rows, rest, hselect, rfl, hkept⟩
    refine yields_pure ?_
    rintro _ ⟨⟩
    rw [List.append_nil]
    exact ⟨schema, select, rows, rest, hfound, hselect, rfl,
      hkept.imp fun row record hrecord => hrecord.writesBack hschema⟩
  obtain ⟨added, hextends, hend⟩ := hyields world
  obtain ⟨schema, select, rows, rest, hfound, hselect, hsent, hback⟩ := hend _ h records rfl
  exact ⟨schema, select, rows, rest, hfound, hselect, hsent ▸ hextends.exchanges, hback⟩

/-! ## A user and a profile -/

def declaredCatalogue : Catalogue where
  dialect := .sqlite
  schemas := [(users .user).schema, (users .profile).schema]
  valid := rfl

/-- The row of a user with a profile and without an age. -/
def userRow : Row :=
  ⟨[("id", some "1"), ("age", none), ("__instance_key", some "k"), ("profile", some "p")]⟩

/-- A store with this row and with rows of profiles. -/
def userSurroundings (profiles : List Row) : Surroundings where
  catalogue := declaredCatalogue
  store := keyedStore .sqlite (fun table => if table = "profile" then profiles else []) [userRow]
  draws := fun _ => 0

def userWith (profile : Cell Record) : Record where
  table := "user"
  fields := [(.primary "id", .present (.uint32 1)), (.regular "age" .int32 true, .null)]
  links := [(⟨"profile", "profile", "user", .left⟩, profile)]
  key := .present "k"

def userProfile : Record where
  table := "profile"
  fields := [(.primary "id", .present (.uint32 2)), (.regular "bio" (.varchar 64) true, .null)]
  links := [(⟨"user", "user", "profile", .right⟩, .undefined)]
  key := .present "p"

def recordsOf? : Except Halt (Answer ι) → Option (List Record)
  | .ok (.records records) => some records
  | _ => none

theorem recordsOf?_eq_some {result : Except Halt (Answer ι)} {records : List Record} :
    recordsOf? result = some records ↔ result = .ok (.records records) := by
  rcases result with halt | answer
  · exact ⟨nofun, nofun⟩
  · cases answer with
    | records found =>
      rw [recordsOf?, Option.some.injEq, Except.ok.injEq, Answer.records.injEq]
    | _ => exact ⟨nofun, nofun⟩

/-- A profile was found, and its key is written again. -/
theorem writesBack_of_selectRecords_users :
    let surroundings :=
      userSurroundings [⟨[("id", some "2"), ("bio", none), ("__instance_key", some "p")]⟩]
    let session := (selectRecords "user" { relations := NameSet.empty.insert "profile" }).run users
    surroundings.Keyed ∧
      (session.run surroundings {}).1 = .ok (.records [userWith (.present userProfile)]) ∧
      (∃ schema rest, WritesBack declaredCatalogue schema rest userRow
        (userWith (.present userProfile))) ∧
      Update.ofRecord (userWith (.present userProfile)) (.whereEqual "id" (.uint32 1)) =
        .ok ⟨"user", [⟨"age", .null⟩, ⟨"profile", .text "p"⟩],
          some (.compare "id" .equal (.integer 1))⟩ := by
  intro surroundings session
  have hkeyed : surroundings.Keyed := keyed_keyedStore declaredCatalogue _ _ _
  have hresult : (session.run surroundings {}).1 =
      .ok (.records [userWith (.present userProfile)]) :=
    recordsOf?_eq_some.mp (by decide +kernel)
  have hfirst : (session.run surroundings {}).2.exchanges.head? =
      some ⟨.query "SELECT * FROM `user`", .done [userRow]⟩ := by decide +kernel
  refine ⟨hkeyed, hresult, ?_, rfl⟩
  obtain ⟨schema, select, rows, rest, -, -, hexchanges, hback⟩ :=
    writesBack_of_selectRecords hkeyed users {} hresult
  rw [hexchanges] at hfirst
  -- the records are those of the rows in the first exchange
  have hreply : Reply.done rows = .done [userRow] :=
    congrArg Exchange.reply (Option.some.inj hfirst)
  obtain rfl := Reply.done.inj hreply
  exact ⟨schema, rest, (List.forall₂_cons.mp hback).1⟩

/-- No profile was found, and the key that the row has is overwritten. -/
theorem not_writesBack_users :
    let session := (selectRecords "user" { relations := NameSet.empty.insert "profile" }).run users
    let update : Update := ⟨"user", [⟨"age", .null⟩, ⟨"profile", .null⟩],
      some (.compare "id" .equal (.integer 1))⟩
    (userSurroundings []).Keyed ∧
      (session.run (userSurroundings []) {}).1 = .ok (.records [userWith .null]) ∧
      (session.run (userSurroundings []) {}).2.exchanges =
        [⟨.query "SELECT * FROM `user`", .done [userRow]⟩,
          ⟨.query "SELECT * FROM `profile` WHERE (`__instance_key` = 'p')", .done []⟩] ∧
      Update.ofRecord (userWith .null) (.whereEqual "id" (.uint32 1)) = .ok update ∧
      Update.assignments? .sqlite (update.render .sqlite) =
        some [⟨"age", .null⟩, ⟨"profile", .null⟩] ∧
      userRow.get? "profile" = some (some "p") ∧
      ¬ ValueType.text.Denotes (some "p") .null := by
  intro session update
  have hresult : (session.run (userSurroundings []) {}).1 = .ok (.records [userWith .null]) :=
    recordsOf?_eq_some.mp (by decide +kernel)
  exact ⟨keyed_keyedStore declaredCatalogue _ _ _, hresult, by decide +kernel, rfl,
    by decide +kernel, rfl, nofun⟩

end Operation

end RecordMapper
