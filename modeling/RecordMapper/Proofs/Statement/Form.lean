import RecordMapper.Proofs.Statement.Write
import RecordMapper.Statement.Select

/-!
# Forms and texts

Data that statements are made of, divided into the contents of its texts and its form, which is all
the rest.

* `Value.form`, `Literal.form`: a value without the content of a text.
* `Predicate.Similar`, `Condition.Similar`: trees of the same shape, connectives, columns and
  operators, whose values are related.
* `Query.ReadsDeclared`, `Query.select_ok_iff`: when the rows of a query can be read.
* `Query.SameForm`, `Record.SameForm`: data that differs only in the contents of texts.
* `Query.texts`, `Record.insertTexts`, `Record.updateTexts`: these contents, in the order in which
  statements write them.
-/

namespace RecordMapper

/-! ## Values -/

namespace Value

/-- A value without the content of a text. -/
def form : Value → Value
  | .text _ => .text ""
  | value => value

def texts : Value → List String
  | .text content => [content]
  | _ => []

end Value

namespace Literal

/-- A literal without the content of a text. -/
def form : Literal → Literal
  | .text _ => .text ""
  | literal => literal

def texts : Literal → List String
  | .text content => [content]
  | _ => []

end Literal

theorem Value.form_literal {value value' : Value} (h : value.form = value'.form) :
    value.literal.form = value'.literal.form := by
  cases value <;> cases value' <;> simp_all [Value.form, Value.literal, Literal.form]

@[simp] theorem Value.texts_literal (value : Value) : value.literal.texts = value.texts := by
  cases value <;> rfl

theorem Value.literal_ne_null (value : Value) : value.literal ≠ .null := by
  cases value <;> nofun

/-! ## Trees -/

/-- Trees that differ only in their values, which are related. -/
inductive Predicate.Similar (R : Value → Value → Prop) : Predicate → Predicate → Prop
  | compare (column operator : String) {value value' : Value} :
      R value value' →
        Similar R (.compare ⟨column, operator, value⟩) (.compare ⟨column, operator, value'⟩)
  | logic (connective : Connective) {left left' right right' : Predicate} :
      Similar R left left' → Similar R right right' →
        Similar R (.logic connective left right) (.logic connective left' right')

/-- Conditions that differ only in their literals, which are related. -/
inductive Condition.Similar (R : Literal → Literal → Prop) : Condition → Condition → Prop
  | compare (column : String) (operator : Operator) {literal literal' : Literal} :
      R literal literal' →
        Similar R (.compare column operator literal) (.compare column operator literal')
  | logic (connective : Connective) {left left' right right' : Condition} :
      Similar R left left' → Similar R right right' →
        Similar R (.logic connective left right) (.logic connective left' right')

/-- Conditions that differ only in the contents of texts. -/
abbrev Condition.SameForm : Condition → Condition → Prop :=
  Condition.Similar fun literal literal' => literal.form = literal'.form

def Predicate.texts (predicate : Predicate) : List String :=
  predicate.leaves.flatMap (·.value.texts)

/-- The columns that a condition names. -/
def Condition.columns : Condition → List String
  | .compare column _ _ => [column]
  | .logic _ left right => left.columns ++ right.columns

def Condition.texts : Condition → List String
  | .compare _ _ literal => literal.texts
  | .logic _ left right => left.texts ++ right.texts

theorem Schema.mem_of_requireColumn {schema : Schema} {name : String} {column : Column}
    (h : schema.requireColumn name = .ok column) :
    column ∈ schema.columns ∧ column.name = name := by
  have hfound := requireColumn_eq_ok.mp h
  rw [column?] at hfound
  have hname := List.find?_some hfound
  exact ⟨List.mem_of_find?_eq_some hfound, beq_iff_eq.mp hname⟩

theorem Operator.ofToken_eq_ok {token : String} {operator : Operator} :
    ofToken token = .ok operator ↔ operator.token = token := by
  rw [ofToken]
  constructor
  · intro h
    split at h
    · next hop =>
      cases h
      exact token_of_ofToken? hop
    · cases h
  · rintro rfl
    rw [ofToken?_token]

namespace Predicate

variable {schema : Schema}

theorem check_compare_eq_ok {comparison : Comparison} {condition : Condition} :
    (compare comparison).check schema = .ok condition ↔
      (∃ column, schema.requireColumn comparison.column = .ok column) ∧
        ∃ operator : Operator, operator.token = comparison.operator ∧
          condition = .compare comparison.column operator comparison.value.literal := by
  rw [check, bind_eq_ok]
  constructor
  · rintro ⟨column, hcolumn, h⟩
    obtain ⟨operator, hoperator, h⟩ := bind_eq_ok.mp h
    exact ⟨⟨column, hcolumn⟩, operator, Operator.ofToken_eq_ok.mp hoperator, (Except.ok.inj h).symm⟩
  · rintro ⟨⟨column, hcolumn⟩, operator, hoperator, rfl⟩
    exact ⟨column, hcolumn, bind_eq_ok.mpr ⟨operator, Operator.ofToken_eq_ok.mpr hoperator, rfl⟩⟩

theorem check_logic_eq_ok {connective : Connective} {left right : Predicate}
    {condition : Condition} :
    (logic connective left right).check schema = .ok condition ↔
      ∃ left' right', left.check schema = .ok left' ∧ right.check schema = .ok right' ∧
        condition = .logic connective left' right' := by
  rw [check, bind_eq_ok]
  constructor
  · rintro ⟨left', hleft, h⟩
    obtain ⟨right', hright, h⟩ := bind_eq_ok.mp h
    exact ⟨left', right', hleft, hright, (Except.ok.inj h).symm⟩
  · rintro ⟨left', right', hleft, hright, rfl⟩
    exact ⟨left', hleft, bind_eq_ok.mpr ⟨right', hright, rfl⟩⟩

/-- A checked condition names declared columns only. -/
theorem columns_of_check {predicate : Predicate} {condition : Condition}
    (h : predicate.check schema = .ok condition) :
    ∀ name ∈ condition.columns, ∃ column ∈ schema.columns, column.name = name := by
  induction predicate generalizing condition with
  | compare comparison =>
    obtain ⟨⟨column, hcolumn⟩, operator, -, rfl⟩ := check_compare_eq_ok.mp h
    intro name hname
    rw [Condition.columns, List.mem_singleton] at hname
    obtain ⟨hmem, hcol⟩ := Schema.mem_of_requireColumn hcolumn
    exact ⟨column, hmem, hcol.trans hname.symm⟩
  | logic connective left right ihl ihr =>
    obtain ⟨left', right', hleft, hright, rfl⟩ := check_logic_eq_ok.mp h
    intro name hname
    rcases List.mem_append.mp hname with hname | hname
    · exact ihl hleft name hname
    · exact ihr hright name hname

theorem texts_of_check {predicate : Predicate} {condition : Condition}
    (h : predicate.check schema = .ok condition) : condition.texts = predicate.texts := by
  induction predicate generalizing condition with
  | compare comparison =>
    obtain ⟨-, operator, -, rfl⟩ := check_compare_eq_ok.mp h
    simp [Condition.texts, texts, leaves]
  | logic connective left right ihl ihr =>
    obtain ⟨left', right', hleft, hright, rfl⟩ := check_logic_eq_ok.mp h
    rw [Condition.texts, ihl hleft, ihr hright, texts, texts, texts, leaves, List.flatMap_append]

/-- Similar trees are refused for the same reason, or give similar conditions. -/
theorem Similar.check {R : Value → Value → Prop} {S : Literal → Literal → Prop}
    {predicate predicate' : Predicate} (h : predicate.Similar R predicate')
    (hRS : ∀ value value', R value value' → S value.literal value'.literal) :
    Agree (Condition.Similar S) (predicate.check schema) (predicate'.check schema) := by
  induction h with
  | compare column operator hvalue =>
    refine (Agree.of_eq rfl).bind (R := Eq) fun _ _ _ => ?_
    refine (Agree.of_eq rfl).bind (R := Eq) ?_
    rintro op _ rfl
    exact .done (.compare column op (hRS _ _ hvalue))
  | logic connective _ _ ihl ihr =>
    exact ihl.bind fun _ _ hleft =>
      ihr.bind fun _ _ hright => .done (.logic connective hleft hright)

end Predicate

/-! ## Queries -/

namespace Query

def texts (query : Query) : List String :=
  (query.predicate.map Predicate.texts).getD []

theorem texts_of_condition {schema : Schema} {query : Query}
    {condition : Option Condition} (h : query.condition schema = .ok condition) :
    (condition.map Condition.texts).getD [] = query.texts := by
  rw [Query.condition] at h
  rw [texts]
  split at h
  · next hpredicate =>
    obtain ⟨c, hcheck, rfl⟩ := map_eq_ok.mp h
    rw [hpredicate]
    exact Predicate.texts_of_check hcheck
  · next hpredicate =>
    cases h
    rw [hpredicate]
    rfl

theorem condition_of_mutationFilter {schema : Schema} {mutation : Mutation} {query : Query}
    {condition : Option Condition} (h : query.mutationFilter schema mutation = .ok condition) :
    query.condition schema = .ok condition := by
  rw [mutationFilter] at h
  split at h
  · exact h
  · cases h

theorem select_of_ofQuery {schema : Schema} {query : Query} {select : Select}
    (h : Select.ofQuery schema query = .ok select) :
    query.condition schema = .ok select.condition ∧
      select = {
        table := schema.table
        projection := Select.projectionOf schema query
        condition := select.condition
        order := query.order
        limit := query.limit
        offset := query.offset } := by
  rw [Select.ofQuery] at h
  obtain ⟨-, -, h⟩ := bind_eq_ok.mp h
  obtain ⟨-, -, h⟩ := bind_eq_ok.mp h
  obtain ⟨condition, hcondition, h⟩ := bind_eq_ok.mp h
  obtain ⟨-, -, h⟩ := bind_eq_ok.mp h
  cases h
  exact ⟨hcondition, rfl⟩

/-- Whatever a query reads, resolves and orders by is declared. -/
structure ReadsDeclared (schema : Schema) (query : Query) : Prop where
  columns : ∀ name ∈ query.columns.names, ∃ column, schema.column? name = some column
  relations : ∀ key ∈ query.relations.names, ∃ relation, schema.relation? key = some relation
  order : ∀ entry ∈ query.order, ∃ column, schema.column? entry.column = some column

theorem select_ok_iff {schema : Schema} {query : Query} :
    (∃ select, Select.ofQuery schema query = .ok select) ↔
      query.ReadsDeclared schema ∧ ∃ condition, query.condition schema = .ok condition := by
  constructor
  · rintro ⟨select, h⟩
    obtain ⟨hread, h⟩ := bind_unit_eq_ok.mp h
    obtain ⟨hresolve, h⟩ := bind_unit_eq_ok.mp h
    obtain ⟨condition, hcondition, h⟩ := bind_eq_ok.mp h
    obtain ⟨horder, -⟩ := bind_unit_eq_ok.mp h
    simp only [forM_eq_ok, discard_eq_ok, Schema.requireColumn_eq_ok,
      Schema.requireRelation_eq_ok] at hread hresolve horder
    exact ⟨⟨hread, hresolve, horder⟩, condition, hcondition⟩
  · rintro ⟨⟨hread, hresolve, horder⟩, condition, hcondition⟩
    refine ⟨_, bind_unit_eq_ok.mpr ⟨?_, bind_unit_eq_ok.mpr ⟨?_, bind_eq_ok.mpr
      ⟨condition, hcondition, bind_unit_eq_ok.mpr ⟨?_, rfl⟩⟩⟩⟩⟩
    · simpa only [forM_eq_ok, discard_eq_ok, Schema.requireColumn_eq_ok] using hread
    · simpa only [forM_eq_ok, discard_eq_ok, Schema.requireRelation_eq_ok] using hresolve
    · simpa only [forM_eq_ok, discard_eq_ok, Schema.requireColumn_eq_ok] using horder

/-- Queries that differ only in the contents of texts in their predicates. -/
structure SameForm (query query' : Query) : Prop where
  predicate : Option.Rel (Predicate.Similar fun value value' => value.form = value'.form)
    query.predicate query'.predicate
  rest : { query with predicate := none } = { query' with predicate := none }

end Query

/-! ## Records -/

namespace Cell

variable {α β : Type}

theorem map_eq_map {f : α → β} {cell cell' : Cell α} (h : cell.map f = cell'.map f) :
    cell = .undefined ∧ cell' = .undefined ∨ cell = .null ∧ cell' = .null ∨
      ∃ x x', cell = .present x ∧ cell' = .present x' ∧ f x = f x' := by
  cases cell <;> cases cell' <;> simp_all [Cell.map]

theorem isPresent_map (f : α → β) (cell : Cell α) : (cell.map f).isPresent = cell.isPresent := by
  cases cell <;> rfl

theorem isNull_map (f : α → β) (cell : Cell α) : (cell.map f).isNull = cell.isNull := by
  cases cell <;> rfl

def texts : Cell Value → List String
  | .present value => value.texts
  | _ => []

end Cell

namespace Record

/-- Records that differ only in the contents of texts. Of a peer only the instance key counts, since
no more of it is written. -/
structure SameForm (record record' : Record) : Prop where
  table : record.table = record'.table
  fields : record.fields.map (fun field => (field.1, field.2.map Value.form)) =
    record'.fields.map fun field => (field.1, field.2.map Value.form)
  links : record.links.map (fun link => (link.1, link.2.map fun peer => peer.key.map fun _ => ())) =
    record'.links.map fun link => (link.1, link.2.map fun peer => peer.key.map fun _ => ())
  key : (record.key.map fun _ => ()) = record'.key.map fun _ => ()

/-- The texts in the columns that are written; the primary column is not. -/
def columnTexts (record : Record) : List String :=
  record.fields.flatMap fun field => if field.1.isPrimary then [] else field.2.texts

def keyTexts (record : Record) : List String :=
  record.key.present?.toList

/-- The instance keys of the peers that are written. -/
def peerTexts (record : Record) : List String :=
  record.links.flatMap fun link =>
    if link.1.ownsColumn then (peerKey link.2).present?.toList else []

def insertTexts (record : Record) : List String :=
  record.columnTexts ++ record.keyTexts ++ record.peerTexts

def updateTexts (record : Record) (query : Query) : List String :=
  record.columnTexts ++ record.peerTexts ++ query.texts

end Record

/-! ## Written rows -/

/-- Entries that differ only in the contents of texts. -/
def Entry.SameForm (entry entry' : Entry) : Prop :=
  entry.name = entry'.name ∧ entry.literal.form = entry'.literal.form

theorem map_name_of_sameForm {entries entries' : List Entry}
    (h : List.Forall₂ Entry.SameForm entries entries') :
    entries.map (·.name) = entries'.map (·.name) :=
  forall₂_eq_iff_map_eq.mp (h.imp fun _ _ hentry => hentry.1)

/-- Cells of the same form have entries of the same form. -/
theorem ofCell?_sameForm (name : String) {cell cell' : Cell Value}
    (h : cell.map Value.form = cell'.map Value.form) :
    Option.Rel Entry.SameForm (Entry.ofCell? name cell) (Entry.ofCell? name cell') := by
  rcases Cell.map_eq_map h with ⟨rfl, rfl⟩ | ⟨rfl, rfl⟩ | ⟨value, value', rfl, rfl, hform⟩
  · exact .none
  · exact .some ⟨rfl, rfl⟩
  · exact .some ⟨rfl, Value.form_literal hform⟩

theorem rel_toList {α β : Type} {R : α → β → Prop} {found : Option α} {found' : Option β}
    (h : Option.Rel R found found') : List.Forall₂ R found.toList found'.toList := by
  cases h with
  | some h => exact .cons h .nil
  | none => exact .nil

theorem rel_filterMap_id {α β : Type} {R : α → β → Prop} {xs : List (Option α)}
    {ys : List (Option β)} (h : List.Forall₂ (Option.Rel R) xs ys) :
    List.Forall₂ R (xs.filterMap id) (ys.filterMap id) :=
  List.rel_filterMap (fun _ _ h => h) h

/-- Fields of the same form are written alike, if the same of them are refused. -/
theorem Entry.agree_of_field {column : Column} {cell cell' : Cell Value}
    (h : cell.map Value.form = cell'.map Value.form) {refused refused' : Bool}
    (hrefused : refused = refused') (fault : Fault) :
    Agree (Option.Rel SameForm)
      (if column.isPrimary then .ok none
        else if column.isRequired && refused then .error fault
        else .ok (ofCell? column.name cell))
      (if column.isPrimary then .ok none
        else if column.isRequired && refused' then .error fault
        else .ok (ofCell? column.name cell')) := by
  rw [hrefused]
  split
  · exact .done .none
  · split
    · exact .failed fault
    · exact .done (ofCell?_sameForm column.name h)

theorem Insert.fieldEntry_agree (table : String) {field field' : Column × Cell Value}
    (h : (field.1, field.2.map Value.form) = (field'.1, field'.2.map Value.form)) :
    Agree (Option.Rel Entry.SameForm) (fieldEntry table field) (fieldEntry table field') := by
  obtain ⟨column, cell⟩ := field
  obtain ⟨column', cell'⟩ := field'
  obtain ⟨rfl, hcell⟩ := Prod.mk.inj h
  have hpresent := congrArg Cell.isPresent hcell
  rw [Cell.isPresent_map, Cell.isPresent_map] at hpresent
  exact Entry.agree_of_field hcell (congrArg not hpresent) _

theorem Update.fieldEntry_agree (table : String) {field field' : Column × Cell Value}
    (h : (field.1, field.2.map Value.form) = (field'.1, field'.2.map Value.form)) :
    Agree (Option.Rel Entry.SameForm) (fieldEntry table field) (fieldEntry table field') := by
  obtain ⟨column, cell⟩ := field
  obtain ⟨column', cell'⟩ := field'
  obtain ⟨rfl, hcell⟩ := Prod.mk.inj h
  have hnull := congrArg Cell.isNull hcell
  rw [Cell.isNull_map, Cell.isNull_map] at hnull
  exact Entry.agree_of_field hcell hnull _

theorem Entry.ofLink?_agree {link link' : Relation × Cell Record}
    (h : (link.1, link.2.map fun peer => peer.key.map fun _ => ()) =
      (link'.1, link'.2.map fun peer => peer.key.map fun _ => ())) :
    Agree (Option.Rel Entry.SameForm) (ofLink? link) (ofLink? link') := by
  obtain ⟨relation, cell⟩ := link
  obtain ⟨relation', cell'⟩ := link'
  obtain ⟨rfl, hcell⟩ := Prod.mk.inj h
  rw [ofLink?, ofLink?]
  split
  · rcases Cell.map_eq_map hcell with ⟨rfl, rfl⟩ | ⟨rfl, rfl⟩ | ⟨peer, peer', rfl, rfl, hkey⟩
    · exact .done .none
    · exact .done (.some ⟨rfl, rfl⟩)
    · dsimp only
      rcases Cell.map_eq_map hkey with ⟨hk, hk'⟩ | ⟨hk, hk'⟩ | ⟨key, key', hk, hk', -⟩ <;>
        rw [hk, hk']
      · exact .failed _
      · exact .failed _
      · exact .done (.some ⟨rfl, rfl⟩)
  · exact .done .none

namespace Query.SameForm

variable {query query' : Query} (h : query.SameForm query') (schema : Schema)

include h

theorem parts :
    query.order = query'.order ∧ query.limit = query'.limit ∧ query.offset = query'.offset ∧
      query.columns = query'.columns ∧ query.relations = query'.relations ∧
      query.unconditional = query'.unconditional := by
  have hrest := h.rest
  simp only [Query.mk.injEq, true_and] at hrest
  exact hrest

theorem condition :
    Agree (Option.Rel Condition.SameForm)
      (query.condition schema) (query'.condition schema) := by
  rw [Query.condition, Query.condition]
  have hpredicate := h.predicate
  revert hpredicate
  generalize query.predicate = predicate
  generalize query'.predicate = predicate'
  rintro (hsimilar | _)
  · exact (hsimilar.check fun _ _ => Value.form_literal).map fun _ _ hcondition => .some hcondition
  · exact .done .none

theorem mutationFilter (mutation : Mutation) :
    Agree (Option.Rel Condition.SameForm)
      (query.mutationFilter schema mutation) (query'.mutationFilter schema mutation) := by
  obtain ⟨-, -, -, -, -, hconfirmed⟩ := h.parts
  have hsome : query.predicate.isSome = query'.predicate.isSome := by
    have hpredicate := h.predicate
    revert hpredicate
    generalize query.predicate = predicate
    generalize query'.predicate = predicate'
    rintro (_ | _) <;> rfl
  rw [Query.mutationFilter, Query.mutationFilter, hconfirmed, hsome]
  split
  · exact h.condition schema
  · exact .failed _

/-- Queries of the same form are refused for the same reason, or read the same of rows of similar
conditions. -/
theorem select :
    Agree (fun select select' => select' = { select with condition := select'.condition } ∧
        Option.Rel Condition.SameForm select.condition select'.condition)
      (Select.ofQuery schema query) (Select.ofQuery schema query') := by
  obtain ⟨horder, hlimit, hoffset, hcolumns, hrelations, -⟩ := h.parts
  have hprojection : Select.projectionOf schema query = Select.projectionOf schema query' := by
    rw [Select.projectionOf, Select.projectionOf, hcolumns, hrelations]
  rw [Select.ofQuery, Select.ofQuery, horder, hlimit, hoffset, hcolumns, hrelations, hprojection]
  refine (Agree.of_eq rfl).bind fun _ _ _ => (Agree.of_eq rfl).bind fun _ _ _ => ?_
  refine (h.condition schema).bind fun condition condition' hcondition => ?_
  exact (Agree.of_eq rfl).bind fun _ _ _ => .done ⟨rfl, hcondition⟩

end Query.SameForm

namespace Record.SameForm

variable {record record' : Record} (h : record.SameForm record')

include h

theorem schema_eq : record.schema = record'.schema := by
  have hcolumns := congrArg (List.map Prod.fst) h.fields
  have hrelations := congrArg (List.map Prod.fst) h.links
  rw [List.map_map, List.map_map] at hcolumns hrelations
  simp only [Record.schema, Schema.mk.injEq]
  exact ⟨h.table, hcolumns, hrelations⟩

theorem linkEntries :
    Agree (List.Forall₂ Entry.SameForm) record.linkEntries record'.linkEntries :=
  (Agree.mapM (forall₂_eq_iff_map_eq.mpr h.links) fun _ _ => Entry.ofLink?_agree).map
    fun _ _ hlinks => rel_filterMap_id hlinks

theorem keyEntry :
    Agree (Option.Rel Entry.SameForm) (Insert.keyEntry record) (Insert.keyEntry record') := by
  rw [Insert.keyEntry, Insert.keyEntry, h.table]
  rcases Cell.map_eq_map h.key with ⟨hk, hk'⟩ | ⟨hk, hk'⟩ | ⟨key, key', hk, hk', -⟩ <;>
    rw [hk, hk']
  · exact .done .none
  · exact .failed _
  · exact .done (.some ⟨rfl, rfl⟩)

/-- Records of the same form are refused for the same reason, or inserted with entries of the same
form. -/
theorem insert :
    Agree (fun insert insert' => insert.table = record.table ∧ insert'.table = record.table ∧
        List.Forall₂ Entry.SameForm insert.entries insert'.entries)
      (Insert.ofRecord record) (Insert.ofRecord record') := by
  rw [Insert.ofRecord, Insert.ofRecord, ← h.table]
  refine (Agree.mapM (forall₂_eq_iff_map_eq.mpr h.fields) fun _ _ =>
    Insert.fieldEntry_agree record.table).bind fun fields fields' hfields => ?_
  refine h.keyEntry.bind fun key key' hkey => ?_
  refine h.linkEntries.bind fun links links' hlinks => .done ⟨rfl, rfl, ?_⟩
  exact List.rel_append (List.rel_append (rel_filterMap_id hfields) (rel_toList hkey)) hlinks

/-- Records of the same form are refused for the same reason, or written with entries of the same
form over rows of similar conditions. -/
theorem update {query query' : Query} (hquery : query.SameForm query') :
    Agree (fun update update' => update.table = record.table ∧ update'.table = record.table ∧
        List.Forall₂ Entry.SameForm update.entries update'.entries ∧
        Option.Rel Condition.SameForm update.condition update'.condition)
      (Update.ofRecord record query) (Update.ofRecord record' query') := by
  rw [Update.ofRecord, Update.ofRecord, ← h.table, ← h.schema_eq]
  refine (hquery.mutationFilter record.schema .update).bind ?_
  intro condition condition' hcondition
  refine (Agree.mapM (forall₂_eq_iff_map_eq.mpr h.fields) fun _ _ =>
    Update.fieldEntry_agree record.table).bind fun fields fields' hfields => ?_
  refine h.linkEntries.bind fun links links' hlinks => ?_
  have hentries : List.Forall₂ Entry.SameForm (fields.filterMap id ++ links)
      (fields'.filterMap id ++ links') := List.rel_append (rel_filterMap_id hfields) hlinks
  revert hentries
  generalize fields.filterMap id ++ links = entries
  generalize fields'.filterMap id ++ links' = entries'
  rintro (_ | ⟨hentry, hrest⟩)
  · exact .failed _
  · exact .done ⟨rfl, rfl, .cons hentry hrest, hcondition⟩

end Record.SameForm

/-! ## Texts of written rows -/

theorem texts_ofCell? (name : String) (cell : Cell Value) :
    (Entry.ofCell? name cell).toList.flatMap (·.literal.texts) = cell.texts := by
  cases cell with
  | undefined => rfl
  | null => rfl
  | present value =>
    rw [Cell.texts, ← Value.texts_literal]
    exact List.append_nil _

theorem texts_map_text (cell : Cell String) :
    (cell.map Value.text).texts = cell.present?.toList := by
  cases cell <;> rfl

theorem flatMap_filterMap {α β γ : Type} (f : α → Option β) (g : β → List γ) (xs : List α) :
    (xs.filterMap f).flatMap g = xs.flatMap fun x => (f x).toList.flatMap g := by
  induction xs with
  | nil => rfl
  | cons x xs ih =>
    rw [List.filterMap_cons, List.flatMap_cons]
    cases f x with
    | none => simpa using ih
    | some y => simp [ih]

namespace Record

theorem texts_columnEntries (record : Record) :
    record.columnEntries.flatMap (·.literal.texts) = record.columnTexts := by
  rw [columnEntries, flatMap_filterMap, columnTexts]
  congr 1
  funext field
  rw [entryOfField?]
  split
  · rfl
  · exact texts_ofCell? _ _

theorem texts_keyEntries (record : Record) :
    record.keyEntries.flatMap (·.literal.texts) = record.keyTexts := by
  rw [keyEntries, texts_ofCell?, texts_map_text, keyTexts]

theorem texts_peerEntries (record : Record) :
    record.peerEntries.flatMap (·.literal.texts) = record.peerTexts := by
  rw [peerEntries, flatMap_filterMap, peerTexts]
  congr 1
  funext link
  rw [entryOfLink?]
  split
  · rw [texts_ofCell?, texts_map_text]
  · rfl

end Record

theorem Insert.texts_of_ofRecord {record : Record} {insert : Insert}
    (h : ofRecord record = .ok insert) :
    insert.entries.flatMap (·.literal.texts) = record.insertTexts := by
  obtain ⟨-, -, -, rfl⟩ := ofRecord_eq_ok.mp h
  rw [List.flatMap_append, List.flatMap_append, record.texts_columnEntries,
    record.texts_keyEntries, record.texts_peerEntries, Record.insertTexts]

theorem Update.texts_of_ofRecord {record : Record} {query : Query} {update : Update}
    (h : ofRecord record query = .ok update) :
    update.entries.flatMap (·.literal.texts) ++ (update.condition.map Condition.texts).getD [] =
      record.updateTexts query := by
  obtain ⟨hcondition, -, -, -, hentries, -⟩ := ofRecord_eq_ok.mp h
  rw [hentries, List.flatMap_append, record.texts_columnEntries, record.texts_peerEntries,
    Query.texts_of_condition (Query.condition_of_mutationFilter hcondition), Record.updateTexts]

end RecordMapper
