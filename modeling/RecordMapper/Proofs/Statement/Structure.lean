import RecordMapper.Proofs.Decimal
import RecordMapper.Proofs.Registry
import RecordMapper.Proofs.Statement.Form
import RecordMapper.Proofs.Token

/-!
# Texts do not change the structure of a statement

Statements that are made of data of the same form are read into token sequences that differ only in
the contents of texts, and these contents are the texts of the data (`statementsAgree_of_sameForm`).
So no text, whatever quotes and escapes it holds, ends before its end.

The lemmas follow the text of each statement from left to right: `ReadAlike` is the invariant, which
says that the reader is outside of names and texts wherever a statement goes on.
-/

namespace RecordMapper

open Dialect

theorem isPlain_ofInt (n : Int) : isPlain (Decimal.ofInt n) := by
  rw [isPlain, List.all_eq_true]
  intro c hc
  rcases Decimal.mem_ofInt hc with rfl | hdigit
  · rfl
  · have hne : ∀ d : Char, d.isDigit = false → c ≠ d := by
      rintro d hd rfl
      rw [hdigit] at hd
      cases hd
    simp [hne '\x60' rfl, hne '\'' rfl, hne '"' rfl]

theorem isPlain_token (operator : Operator) : isPlain operator.token := by
  cases operator <;> rfl

theorem isPlain_keyword (connective : Connective) : isPlain connective.keyword := by
  cases connective <;> rfl

variable {dialect : Dialect}

/-! ## Parts of statements -/

theorem Literal.eq_or_text_of_form {literal literal' : Literal}
    (h : literal.form = literal'.form) :
    literal = literal' ∨
      ∃ content content', literal = .text content ∧ literal' = .text content' := by
  cases literal <;> cases literal' <;> simp_all [form]

theorem Literal.readAlike {literal literal' : Literal} (h : literal.form = literal'.form) :
    dialect.Pending (dialect.literal literal) literal.texts (dialect.literal literal')
      literal'.texts := by
  rcases eq_or_text_of_form h with rfl | ⟨content, content', rfl, rfl⟩
  · cases literal with
    | null => exact (ReadAlike.plain _ (s := "NULL") rfl).pending
    | integer n => exact (ReadAlike.plain _ (isPlain_ofInt n)).pending
    | text content => exact ReadAlike.text dialect content content
  · exact ReadAlike.text dialect content content'

namespace Dialect.ReadAlike

variable {sql sql' : String} {texts texts' : List String}

theorem append_empty (h : dialect.Pending sql texts sql' texts') :
    dialect.Pending (sql ++ "") (texts ++ []) (sql' ++ "") (texts' ++ []) := by
  rwa [String.append_empty, String.append_empty, List.append_nil, List.append_nil]

end Dialect.ReadAlike

/-- Conditions of the same form are read alike. -/
theorem Condition.SameForm.readAlike {condition condition' : Condition}
    (h : condition.SameForm condition')
    (hnames : ∀ name ∈ condition.columns, Quotable name) :
    dialect.Sealed (condition.render dialect) condition.texts (condition'.render dialect)
      condition'.texts := by
  -- a literal may be a text, so that only the closing parenthesis seals a comparison
  induction h with
  | compare column operator hliteral =>
    have hcolumn : Quotable column := hnames column (List.mem_singleton.mpr rfl)
    have hopen := (ReadAlike.plain dialect (s := "(") rfl).append_name hcolumn
    have hop := (hopen.append_separator (s := " ") rfl).append_plain (isPlain_token operator)
    have hspace := hop.pending.append_separator (s := " ") rfl
    exact (hspace.append (Literal.readAlike hliteral)).append_separator (s := ")") rfl
  | logic connective _ _ ihl ihr =>
    have hleft := (ReadAlike.plain dialect (s := "(") rfl).append
      (ihl fun name hname => hnames name (List.mem_append_left _ hname))
    have hspace := hleft.pending.append_separator (s := " ") rfl
    have hkeyword := hspace.append_plain (isPlain_keyword connective)
    have hright := (hkeyword.pending.append_separator (s := " ") rfl).append
      (ihr fun name hname => hnames name (List.mem_append_right _ hname))
    exact hright.pending.append_separator (s := ")") rfl

/-- A statement goes on with a clause. -/
theorem Dialect.ReadAlike.append_clause {sql sql' : String} {texts texts' : List String}
    (h : dialect.Pending sql texts sql' texts') {condition condition' : Option Condition}
    (hcondition : Option.Rel Condition.SameForm condition condition')
    (hnames : ∀ c ∈ condition, ∀ name ∈ c.columns, Quotable name) :
    dialect.Pending (sql ++ Condition.clause dialect condition)
      (texts ++ (condition.map Condition.texts).getD [])
      (sql' ++ Condition.clause dialect condition')
      (texts' ++ (condition'.map Condition.texts).getD []) := by
  cases hcondition with
  | none => exact h.append_empty
  | some hsimilar =>
    have hwhere := h.append_separator (s := " WHERE ") rfl
    have hread := hwhere.append (hsimilar.readAlike (hnames _ rfl))
    simpa only [Condition.clause, ← String.append_assoc, Option.map_some, Option.getD_some] using
      hread.pending

theorem Entry.SameForm.readAlike_assignment {entry entry' : Entry} (h : entry.SameForm entry')
    (hname : Quotable entry.name) :
    dialect.Pending (identifier entry.name ++ " = " ++ dialect.literal entry.literal)
      entry.literal.texts (identifier entry'.name ++ " = " ++ dialect.literal entry'.literal)
      entry'.literal.texts := by
  have hequals := (ReadAlike.name dialect hname).append_separator (s := " = ") rfl
  rw [← h.1]
  exact hequals.append (Literal.readAlike h.2)

/-! ## Statements -/

variable (dialect)

theorem Insert.readAlike {table : String} (htable : Quotable table) {entries entries' : List Entry}
    (hentries : List.Forall₂ Entry.SameForm entries entries')
    (hnames : ∀ entry ∈ entries, Quotable entry.name) :
    dialect.Pending (render dialect ⟨table, entries⟩) (entries.flatMap (·.literal.texts))
      (render dialect ⟨table, entries'⟩) (entries'.flatMap (·.literal.texts)) := by
  have hinto := (ReadAlike.plain dialect (s := "INSERT INTO ") rfl).append_name htable
  have hspace := hinto.append_separator (s := " ") rfl
  by_cases hne : entries = []
  · subst hne
    cases hentries
    have hdefaults : isPlain dialect.defaultValues := by cases dialect <;> rfl
    exact (hspace.append (ReadAlike.plain _ hdefaults)).pending
  · have hne' : entries' ≠ [] := fun h => hne (by cases h ▸ hentries; rfl)
    have hlist := (ReadAlike.plain dialect (s := "(") rfl).append
      (ReadAlike.names dialect (List.forall_mem_map.mpr hnames))
    have hbetween := hlist.append_separator (s := ") VALUES (") rfl
    have hvalues := hbetween.append
      (ReadAlike.intercalate hentries fun e e' he => Literal.readAlike he.2)
    have hread := hspace.append (hvalues.append_separator (s := ")") rfl)
    have hwrite : ∀ es : List Entry,
        es.map (identifier ·.name) = (es.map (·.name)).map identifier := by
      intro es
      rw [List.map_map]
      rfl
    rw [render_of_ne_nil dialect hne, render_of_ne_nil dialect hne', hwrite, hwrite,
      ← map_name_of_sameForm hentries]
    exact hread.pending

theorem Update.readAlike {table : String} (htable : Quotable table) {entries entries' : List Entry}
    (hentries : List.Forall₂ Entry.SameForm entries entries')
    (hnames : ∀ entry ∈ entries, Quotable entry.name) {condition condition' : Option Condition}
    (hcondition : Option.Rel Condition.SameForm condition condition')
    (hcolumns : ∀ c ∈ condition, ∀ name ∈ c.columns, Quotable name) :
    dialect.Pending (render dialect ⟨table, entries, condition⟩)
      (entries.flatMap (·.literal.texts) ++ (condition.map Condition.texts).getD [])
      (render dialect ⟨table, entries', condition'⟩)
      (entries'.flatMap (·.literal.texts) ++ (condition'.map Condition.texts).getD []) := by
  have hupdate := (ReadAlike.plain dialect (s := "UPDATE ") rfl).append_name htable
  have hset := hupdate.append_separator (s := " SET ") rfl
  have hquotable : List.Forall₂ (fun e e' => Quotable e.name ∧ Entry.SameForm e e') entries
      entries' := (List.forall₂_and_left _ _).mpr ⟨hnames, hentries⟩
  have hlist := hset.append
    (ReadAlike.intercalate hquotable fun e e' he => he.2.readAlike_assignment he.1)
  simpa only [render, List.nil_append] using hlist.append_clause hcondition hcolumns

theorem Delete.readAlike {table : String} (htable : Quotable table)
    {condition condition' : Option Condition}
    (hcondition : Option.Rel Condition.SameForm condition condition')
    (hcolumns : ∀ c ∈ condition, ∀ name ∈ c.columns, Quotable name) :
    dialect.Pending (render dialect ⟨table, condition⟩) ((condition.map Condition.texts).getD [])
      (render dialect ⟨table, condition'⟩) ((condition'.map Condition.texts).getD []) := by
  have hfrom := (ReadAlike.plain dialect (s := "DELETE FROM ") rfl).append_name htable
  simpa only [render, List.nil_append] using hfrom.append_clause hcondition hcolumns

/-- Where a reading goes on after its condition, it goes on with a space. The names in an order
stand there without backticks, after all texts. -/
theorem Select.clear_end (order : List OrderEntry) (limit offset : Option UInt64) :
    dialect.Clear (orderClause order ++ pageClause dialect limit offset).toList := by
  cases order with
  | nil =>
    rw [orderClause, String.empty_append]
    cases limit with
    | none =>
      cases offset with
      | none => exact dialect.clear_nil
      | some offset =>
        rw [pageClause, String.append_assoc, String.append_assoc, String.toList_append]
        exact dialect.clear_of_isSeparator rfl _
    | some limit =>
      cases offset with
      | none =>
        rw [pageClause, String.toList_append]
        exact dialect.clear_of_isSeparator rfl _
      | some offset =>
        rw [pageClause, String.append_assoc, String.append_assoc, String.toList_append]
        exact dialect.clear_of_isSeparator rfl _
  | cons entry rest =>
    rw [orderClause, String.append_assoc, String.toList_append]
    · exact dialect.clear_of_isSeparator rfl _
    · nofun

/-- The projection, the table and the condition of a reading. -/
theorem Select.readAlike {table : String} (htable : Quotable table) (projection : Projection)
    (hprojection : ∀ names, projection = .names names → ∀ name ∈ names, Quotable name)
    {condition condition' : Option Condition}
    (hcondition : Option.Rel Condition.SameForm condition condition')
    (hcolumns : ∀ c ∈ condition, ∀ name ∈ c.columns, Quotable name) :
    dialect.Pending
      ("SELECT " ++ projection.render ++ " FROM " ++ Dialect.identifier table ++
        Condition.clause dialect condition)
      ((condition.map Condition.texts).getD [])
      ("SELECT " ++ projection.render ++ " FROM " ++ Dialect.identifier table ++
        Condition.clause dialect condition')
      ((condition'.map Condition.texts).getD []) := by
  have hread : dialect.Pending projection.render [] projection.render [] := by
    cases projection with
    | all => exact (ReadAlike.plain dialect (s := "*") rfl).pending
    | names names => exact ReadAlike.names dialect (hprojection names rfl)
  have hselect := (ReadAlike.plain dialect (s := "SELECT ") rfl).append hread
  have hfrom := (hselect.append_separator (s := " FROM ") rfl).append_name htable
  simpa only [List.nil_append] using hfrom.append_clause hcondition hcolumns

/-! ## Texts in statements -/

/-- A query reads stored columns only. -/
theorem Select.mem_storedNames_of_projectionOf {schema : Schema} {query : Query}
    {names : List String} (h : projectionOf schema query = .names names) :
    ∀ name ∈ names, name ∈ schema.storedNames := by
  rw [projectionOf] at h
  split at h
  · cases h
  · cases h
    intro name hname
    rcases List.mem_append.mp hname with hcolumn | hname
    · exact List.mem_append_left _ (List.mem_of_mem_filter hcolumn)
    · rcases List.mem_cons.mp hname with rfl | hrelation
      · exact List.mem_append_right _ List.mem_cons_self
      · exact List.mem_append_right _ (List.mem_cons_of_mem _ (List.mem_of_mem_filter hrelation))

theorem Query.quotable_of_condition {schema : Schema} (hschema : schema.NamesQuotable)
    {query : Query} {condition : Option Condition} (h : query.condition schema = .ok condition) :
    ∀ c ∈ condition, ∀ name ∈ c.columns, Quotable name := by
  rw [Query.condition] at h
  split at h
  · obtain ⟨c, hcheck, rfl⟩ := map_eq_ok.mp h
    intro c' hc name hname
    obtain rfl : c = c' := Option.some.inj hc
    obtain ⟨column, hmem, rfl⟩ := Predicate.columns_of_check hcheck name hname
    exact hschema.columns column hmem
  · cases h
    intro c hc
    cases hc

theorem Record.SameForm.alike_insert {record record' : Record} (h : record.SameForm record')
    (hschema : record.schema.NamesQuotable) :
    Agree (fun insert insert' => dialect.TokensAlike (insert.render dialect) record.insertTexts
        (insert'.render dialect) record'.insertTexts)
      (Insert.ofRecord record) (Insert.ofRecord record') := by
  refine h.insert.with_results.mono ?_
  rintro ⟨_, entries⟩ ⟨_, entries'⟩ ⟨⟨rfl, rfl, hentries⟩, hinsert, hinsert'⟩
  have hread := Insert.readAlike dialect hschema.table hentries fun entry hentry =>
    hschema.storedNames _ (Insert.mem_storedNames_of_ofRecord hinsert hentry)
  rw [← Insert.texts_of_ofRecord hinsert, ← Insert.texts_of_ofRecord hinsert']
  exact hread.alike

theorem Record.SameForm.alike_update {record record' : Record} (h : record.SameForm record')
    (hschema : record.schema.NamesQuotable) {query query' : Query}
    (hquery : query.SameForm query') :
    Agree (fun update update' => dialect.TokensAlike
        (update.render dialect) (record.updateTexts query)
        (update'.render dialect) (record'.updateTexts query'))
      (Update.ofRecord record query) (Update.ofRecord record' query') := by
  refine (h.update hquery).with_results.mono ?_
  rintro ⟨_, entries, condition⟩ ⟨_, entries', condition'⟩
    ⟨⟨rfl, rfl, hentries, hcondition⟩, hupdate, hupdate'⟩
  have hfilter := (Update.ofRecord_eq_ok.mp hupdate).1
  have hread := Update.readAlike dialect hschema.table hentries
    (fun entry hentry => hschema.storedNames _ (Update.mem_storedNames_of_ofRecord hupdate hentry))
    hcondition (Query.quotable_of_condition hschema (Query.condition_of_mutationFilter hfilter))
  rw [← Update.texts_of_ofRecord hupdate, ← Update.texts_of_ofRecord hupdate']
  exact hread.alike

theorem Query.SameForm.alike_delete {query query' : Query} (h : query.SameForm query')
    {schema : Schema} (hschema : schema.NamesQuotable) :
    Agree (fun delete delete' => dialect.TokensAlike (delete.render dialect) query.texts
        (delete'.render dialect) query'.texts)
      (Delete.ofQuery schema query) (Delete.ofQuery schema query') := by
  refine (h.mutationFilter schema .delete).with_results.bind ?_
  rintro condition condition' ⟨hsimilar, hfilter, hfilter'⟩
  have hcondition := Query.condition_of_mutationFilter hfilter
  have hread := Delete.readAlike dialect hschema.table hsimilar
    (Query.quotable_of_condition hschema hcondition)
  rw [← Query.texts_of_condition hcondition,
    ← Query.texts_of_condition (Query.condition_of_mutationFilter hfilter')]
  exact .done hread.alike

theorem Query.SameForm.alike_select {query query' : Query} (h : query.SameForm query')
    {schema : Schema} (hschema : schema.NamesQuotable) :
    Agree (fun select select' => dialect.TokensAlike (select.render dialect) query.texts
        (select'.render dialect) query'.texts)
      (Select.ofQuery schema query) (Select.ofQuery schema query') := by
  refine (h.select schema).with_results.mono ?_
  rintro select select' ⟨⟨hrest, hsimilar⟩, hselect, hselect'⟩
  obtain ⟨hcondition, hparts⟩ := Query.select_of_ofQuery hselect
  obtain ⟨hcondition', -⟩ := Query.select_of_ofQuery hselect'
  have hread := Select.readAlike dialect hschema.table (Select.projectionOf schema query)
    (fun names hnames name hname =>
      hschema.storedNames _ (Select.mem_storedNames_of_projectionOf hnames name hname))
    hsimilar (Query.quotable_of_condition hschema hcondition)
  have halike := hread.alike_append (Select.clear_end dialect query.order query.limit query.offset)
  rw [Query.texts_of_condition hcondition, Query.texts_of_condition hcondition'] at halike
  rw [hrest, hparts]
  simpa only [Select.render, String.append_assoc] using halike

theorem Select.alike_byKey {table column : String} (htable : Quotable table)
    (hcolumn : Quotable column) (key key' : String) :
    dialect.TokensAlike ((byKey table column key).render dialect) [key]
      ((byKey table column key').render dialect) [key'] := by
  have hsimilar : Condition.SameForm
      (.compare column .equal (.text key)) (.compare column .equal (.text key')) :=
    .compare column .equal rfl
  have hread := Select.readAlike dialect htable .all nofun (.some hsimilar) (by
    rintro _ ⟨⟩ name hname
    rwa [List.mem_singleton.mp hname])
  simpa only [byKey, render, orderClause, pageClause, String.append_empty, Option.map_some,
    Option.getD_some, Condition.texts, Literal.texts] using hread.alike

/-- Two sets of data give the same refusals, or statements whose tokens are the same except for the
contents of texts, where each text that was given is read back as it is. -/
structure StatementsAgree (schema : Schema) (record record' : Record) (query query' : Query)
    (column key key' : String) : Prop where
  insert : Agree (fun insert insert' => dialect.TokensAlike
      (insert.render dialect) record.insertTexts (insert'.render dialect) record'.insertTexts)
    (Insert.ofRecord record) (Insert.ofRecord record')
  update : Agree (fun update update' => dialect.TokensAlike
      (update.render dialect) (record.updateTexts query)
      (update'.render dialect) (record'.updateTexts query'))
    (Update.ofRecord record query) (Update.ofRecord record' query')
  delete : Agree (fun delete delete' => dialect.TokensAlike
      (delete.render dialect) query.texts (delete'.render dialect) query'.texts)
    (Delete.ofQuery schema query) (Delete.ofQuery schema query')
  select : Agree (fun select select' => dialect.TokensAlike
      (select.render dialect) query.texts (select'.render dialect) query'.texts)
    (Select.ofQuery schema query) (Select.ofQuery schema query')
  byKey : dialect.TokensAlike ((Select.byKey schema.table column key).render dialect) [key]
    ((Select.byKey schema.table column key').render dialect) [key']

/-- Texts do not change the structure of a statement, whatever they hold. -/
theorem statementsAgree_of_sameForm {schema : Schema} (hschema : schema.NamesQuotable)
    {record record' : Record} (hrecord : record.schema = schema) (h : record.SameForm record')
    {query query' : Query} (hquery : query.SameForm query') {column : String}
    (hcolumn : Quotable column) (key key' : String) :
    StatementsAgree dialect schema record record' query query' column key key' := by
  subst hrecord
  exact {
    insert := h.alike_insert dialect hschema
    update := h.alike_update dialect hschema hquery
    delete := hquery.alike_delete dialect hschema
    select := hquery.alike_select dialect hschema
    byKey := Select.alike_byKey dialect hschema.table hcolumn key key' }

/-- A table with a text and a relation. -/
def accounts : Schema where
  table := "account"
  columns := [.primary "id", .regular "name" (.varchar 40) true]
  relations := [⟨"owner", "person", "account", .left⟩]

/-- An account with its texts. -/
def account (name key owner : String) : Record where
  table := "account"
  fields := [(.primary "id", .undefined),
    (.regular "name" (.varchar 40) true, .present (.text name))]
  links := [(⟨"owner", "person", "account", .left⟩,
    .present { table := "person", fields := [], links := [], key := .present owner })]
  key := .present key

theorem account_sameForm (name name' key key' owner owner' : String) :
    (account name key owner).SameForm (account name' key' owner') :=
  ⟨rfl, rfl, rfl, rfl⟩

theorem statementsAgree_account :
    accounts.NamesQuotable ∧ (account "Ada" "k" "o").schema = accounts ∧
      StatementsAgree .mariadb accounts (account "Ada" "k" "o")
        (account "\"); DROP TABLE `account` -- \\" "\\\"" "'") (.whereEqual "name" (.text "Ada"))
        (.whereEqual "name" (.text "\" OR `id` > 0 OR \"\\")) "owner" "k" "\\\"" := by
  have hschema : accounts.NamesQuotable := ⟨by decide, by decide, by decide⟩
  have hquery : (Query.whereEqual "name" (.text "Ada")).SameForm
      (.whereEqual "name" (.text "\" OR `id` > 0 OR \"\\")) :=
    ⟨.some (.compare "name" Operator.equal.token rfl), rfl⟩
  exact ⟨hschema, rfl, statementsAgree_of_sameForm .mariadb hschema rfl
    (account_sameForm _ _ _ _ _ _) hquery (by decide) _ _⟩

end RecordMapper
