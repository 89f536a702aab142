import Mathlib.Data.List.Induction
import Mathlib.Data.List.Infix
import RecordMapper.Proofs.Statement.Form
import RecordMapper.Proofs.Statement.Target

/-!
# The end of a reading

A reading ends with the order of its rows and with the part of them to read.

* `Query.page`: the limit and the offset that a store applies to the rows of a query.
* `Select.run_headReader`: a reading is read up to its end, whatever its names and texts hold.
* `Select.page_of_ending`: the limit and the offset are read from the last word on.
* `DividesOrder`, `Select.order_of_clause`: names in an order stand without backticks. They are read
  back if none of them reads as the end of an entry and the start of another one.
* `Select.ending_determined`: what two readings with the same text have in common.
-/

namespace RecordMapper

/-! ## Cuts -/

section Cuts

variable {α : Type} {c : α} {xs ys zs ws : List α}

/-- A list is cut in one way at the last place where it has a member. -/
theorem cut_last (hzs : c ∉ zs) (hws : c ∉ ws) (h : xs ++ c :: zs = ys ++ c :: ws) :
    xs = ys ∧ zs = ws := by
  have hlonger : ∀ {xs ys zs ws : List α}, c ∉ zs → (∃ more, ys = xs ++ more ∧
      c :: zs = more ++ c :: ws) → xs = ys ∧ zs = ws := by
    rintro xs _ zs ws hzs ⟨more, rfl, hmore⟩
    cases more with
    | nil => exact ⟨(List.append_nil _).symm, List.tail_eq_of_cons_eq hmore⟩
    | cons first more =>
      have hmem : c ∈ zs := by
        rw [List.tail_eq_of_cons_eq hmore]
        exact List.mem_append_right _ List.mem_cons_self
      exact absurd hmem hzs
  rcases List.append_eq_append_iff.mp h with hmore | ⟨more, hxs, hmore⟩
  · exact hlonger hzs hmore
  · obtain ⟨hys, hrest⟩ := hlonger hws ⟨more, hxs, hmore⟩
    exact ⟨hys.symm, hrest.symm⟩

/-- Up to the first place where a list has a member, another cut at this member has the same. -/
theorem prefix_of_cut_first (hxs : c ∉ xs) (h : xs ++ c :: zs = ys ++ c :: ws) :
    xs ++ [c] <+: ys ++ [c] := by
  rcases List.append_eq_append_iff.mp h with ⟨more, rfl, hmore⟩ | ⟨more, rfl, hmore⟩
  · cases more with
    | nil => exact ⟨[], by simp⟩
    | cons first more =>
      obtain rfl := (List.cons.inj hmore).1
      exact ⟨more ++ [c], by simp⟩
  · cases more with
    | nil => exact ⟨[], by simp⟩
    | cons first more =>
      obtain rfl := (List.cons.inj hmore).1
      exact absurd (List.mem_append_right _ List.mem_cons_self) hxs

end Cuts

/-! ## Up to the end -/

namespace Condition

open SqlReader

/-- Takes the clause of a condition, if there is one, with a bound on its depth. -/
def clauseReader? (dialect : Dialect) (bound : Nat) : SqlReader (Option Condition) := do
  if " WHERE ".toList.isPrefixOf (← get) then
    symbol " WHERE "
    return some (← reader dialect bound)
  else return none

theorem run_clauseReader? (dialect : Dialect) {condition : Option Condition}
    (hnames : ∀ found, condition = some found → ∀ n ∈ found.columns, Quotable n) {bound : Nat}
    (hbound : (clause dialect condition).toList.length ≤ bound) {rest : List Char}
    (hrest : " WHERE ".toList.isPrefixOf rest = false) :
    (clauseReader? dialect bound).run ((clause dialect condition).toList ++ rest) =
      some (condition, rest) := by
  cases condition with
  | none =>
    have hnone : ¬ " WHERE ".toList.isPrefixOf ("".toList ++ rest) = true :=
      Bool.eq_false_iff.mp hrest
    rw [clause, clauseReader?, run_bind_of (run_get _), if_neg hnone]
    rfl
  | some found =>
    have htext : (clause dialect (some found)).toList =
        " WHERE ".toList ++ (found.render dialect).toList := String.toList_append
    have hdepth : found.depth ≤ bound := by
      have hlength := found.depth_le_length dialect
      rw [htext, List.length_append] at hbound
      omega
    have hstarts : ∀ more, " WHERE ".toList.isPrefixOf (" WHERE ".toList ++ more) = true :=
      fun more => List.isPrefixOf_iff_prefix.mpr ⟨more, rfl⟩
    rw [htext, List.append_assoc, clauseReader?, run_bind_of (run_get _), if_pos (hstarts _),
      run_bind_of (run_symbol _ _), run_bind_of (run_reader dialect (hnames found rfl) hdepth rest)]
    rfl

end Condition

namespace Select

open SqlReader

/-- The text of what follows the condition of a reading. -/
def ending (dialect : Dialect) (order : List OrderEntry) (limit offset : Option UInt64) :
    List Char :=
  (orderClause order).toList ++ (pageClause dialect limit offset).toList

/-- Takes a reading up to its end, with a bound on its size. -/
def headReader (dialect : Dialect) (bound : Nat) :
    SqlReader (Projection × String × Option Condition) := do
  let projection ← Projection.selectReader bound
  let table ← name
  return (projection, table, ← Condition.clauseReader? dialect bound)

theorem not_where_ending (dialect : Dialect) (order : List OrderEntry)
    (limit offset : Option UInt64) :
    " WHERE ".toList.isPrefixOf (ending dialect order limit offset) = false := by
  cases order with
  | nil =>
    cases limit <;> cases offset
    case none.none => rfl
    all_goals
      simp only [ending, orderClause, pageClause, String.toList_append, List.append_assoc]
      rfl
  | cons entry rest =>
    rw [ending, orderClause, String.toList_append, List.append_assoc]
    · rfl
    · exact List.cons_ne_nil entry rest

/-- A reading is read back up to its end. -/
theorem run_headReader (dialect : Dialect) {select : Select}
    (hprojection : select.projection.Written) (htable : Quotable select.table)
    (hnames : ∀ found, select.condition = some found → ∀ n ∈ found.columns, Quotable n) :
    (headReader dialect (select.render dialect).toList.length).run (select.render dialect).toList =
      some ((select.projection, select.table, select.condition),
        ending dialect select.order select.limit select.offset) := by
  have htext : (select.render dialect).toList = "SELECT ".toList ++
      (select.projection.render.toList ++ (" FROM ".toList ++
        ((Dialect.identifier select.table).toList ++
          ((Condition.clause dialect select.condition).toList ++
            ending dialect select.order select.limit select.offset)))) := by
    unfold render ending
    simp only [String.toList_append, List.append_assoc]
  have hprojectionBound : select.projection.render.toList.length ≤
      (select.render dialect).toList.length := by
    rw [htext]
    simp only [List.length_append]
    omega
  have hclauseBound : (Condition.clause dialect select.condition).toList.length ≤
      (select.render dialect).toList.length := by
    rw [htext]
    simp only [List.length_append]
    omega
  have hends : Ends ((Condition.clause dialect select.condition).toList ++
      ending dialect select.order select.limit select.offset) := ends_render dialect _ _ _ _
  have hrest := not_where_ending dialect select.order select.limit select.offset
  generalize (select.render dialect).toList.length = bound at hprojectionBound hclauseBound ⊢
  rw [htext, headReader, Projection.selectReader]
  simp only [bind_assoc, pure_bind]
  rw [run_bind_of (run_symbol "SELECT " _),
    run_bind_of (Projection.run_reader hprojection hprojectionBound _),
    run_bind_of (run_symbol " FROM " _), run_bind_of (run_name htable hends),
    run_bind_of (Condition.run_clauseReader? dialect hnames hclauseBound hrest)]
  rfl

/-- Readings with the same text have the same end. -/
theorem ending_eq_of_render (dialect : Dialect) {schema : Schema} (hschema : schema.NamesQuotable)
    {query query' : Query} {select select' : Select} (h : ofQuery schema query = .ok select)
    (h' : ofQuery schema query' = .ok select')
    (htext : select.render dialect = select'.render dialect) :
    ending dialect query.order query.limit query.offset =
      ending dialect query'.order query'.limit query'.offset := by
  have hread : ∀ {query : Query} {select : Select}, ofQuery schema query = .ok select →
      (headReader dialect (select.render dialect).toList.length).run
        (select.render dialect).toList = some ((select.projection, select.table, select.condition),
          ending dialect query.order query.limit query.offset) := by
    intro query select h
    obtain ⟨hcondition, hparts⟩ := Query.select_of_ofQuery h
    have hnames := Query.quotable_of_condition hschema hcondition
    have hrun := @run_headReader dialect select (by
      rw [hparts]
      exact hschema.written_projectionOf query) (by
      rw [hparts]
      exact hschema.table) fun found hfound => hnames found hfound
    rw [hparts] at hrun ⊢
    exact hrun
  have hboth := hread h
  rw [htext, hread h'] at hboth
  exact (Prod.mk.inj (Option.some.inj hboth)).2.symm

end Select

/-! ## Words at the end -/

/-- Words, each after a space. -/
def spaced (words : List String) : List Char :=
  words.flatMap fun word => ' ' :: word.toList

def IsWord (word : String) : Prop := ' ' ∉ word.toList

instance (word : String) : Decidable (IsWord word) := inferInstanceAs (Decidable (_ ∉ _))

/-- Ends with words are compared from the last word on. -/
theorem append_spaced_inj {start start' : List Char} (words words' : List String)
    {last last' : String} (hlast : IsWord last) (hlast' : IsWord last')
    (h : start ++ spaced (words ++ [last]) = start' ++ spaced (words' ++ [last'])) :
    start ++ spaced words = start' ++ spaced words' ∧ last = last' := by
  have hend : ∀ (start : List Char) (words : List String) (last : String),
      start ++ spaced (words ++ [last]) = (start ++ spaced words) ++ ' ' :: last.toList := by
    intro start words last
    simp [spaced]
  rw [hend, hend] at h
  obtain ⟨hstart, hsame⟩ := cut_last hlast hlast' h
  exact ⟨hstart, String.toList_inj.mp hsame⟩

/-- Words at the end of a text, after a word that is none of them, are found in it. -/
theorem spaced_injective {start start' : List Char} {first first' : String}
    {words words' : List String} (hfirst : IsWord first) (hfirst' : IsWord first')
    (hwords : ∀ word ∈ words, IsWord word) (hwords' : ∀ word ∈ words', IsWord word)
    (hnew : first ∉ words') (hnew' : first' ∉ words)
    (h : start ++ spaced (first :: words) = start' ++ spaced (first' :: words')) :
    start = start' ∧ first = first' ∧ words = words' := by
  -- taken apart from the end, the one with fewer words would end with the first word of the other
  have hsplit : ∀ {start start' : List Char} {first last : String} {words : List String},
      IsWord first → IsWord last → first ∉ words ++ [last] → ∀ first',
        start ++ spaced [first] ≠ start' ++ spaced (first' :: (words ++ [last])) := by
    intro start start' first last words hfirst hlast hnew first' h
    have hsame := (append_spaced_inj [] (first' :: words) hfirst hlast h).2
    exact hnew (hsame ▸ List.mem_append_right _ List.mem_cons_self)
  induction words using List.reverseRecOn generalizing words' with
  | nil =>
    rcases List.eq_nil_or_concat' words' with rfl | ⟨more', last', rfl⟩
    · obtain ⟨hstart, hsame⟩ := append_spaced_inj [] [] hfirst hfirst' h
      exact ⟨List.append_cancel_right hstart, hsame, rfl⟩
    · have hlast' := hwords' last' (List.mem_append_right _ List.mem_cons_self)
      exact absurd h (hsplit hfirst hlast' hnew first')
  | append_singleton more last ih =>
    have hlast := hwords last (List.mem_append_right _ List.mem_cons_self)
    rcases List.eq_nil_or_concat' words' with rfl | ⟨more', last', rfl⟩
    · exact absurd h.symm (hsplit hfirst' hlast hnew' first)
    · have hlast' := hwords' last' (List.mem_append_right _ List.mem_cons_self)
      obtain ⟨hrest, rfl⟩ :=
        append_spaced_inj (first :: more) (first' :: more') hlast hlast' h
      obtain ⟨hstart, hsame, rfl⟩ := ih (List.forall_mem_append.mp hwords).1
        (List.forall_mem_append.mp hwords').1 (fun hmem => hnew (List.mem_append_left _ hmem))
        (fun hmem => hnew' (List.mem_append_left _ hmem)) hrest
      exact ⟨hstart, hsame, rfl⟩

/-! ## Pages -/

/-- The count that stands for no limit. -/
def Dialect.unboundedCount : Dialect → Int
  | .mariadb => 18446744073709551615
  | .sqlite => -1

/-- The part of the rows that a store reads. -/
structure Page where
  limit : Option Int
  offset : Option UInt64
deriving DecidableEq, Repr

/-- The part of its rows that a query asks for. With an offset there is a limit, if only the one
that stands for none. -/
def Query.page (dialect : Dialect) (query : Query) : Page where
  limit :=
    match query.limit, query.offset with
    | some limit, _ => some limit.toNat
    | none, some _ => some dialect.unboundedCount
    | none, none => none
  offset := query.offset

namespace Page

def words (page : Page) : List String :=
  page.limit.elim [] (fun limit => ["LIMIT", Decimal.ofInt limit]) ++
    page.offset.elim [] (fun offset => ["OFFSET", Decimal.ofNat offset.toNat])

end Page

namespace Decimal

theorem isWord_ofInt (n : Int) : IsWord (ofInt n) := by
  intro hspace
  rcases mem_ofInt hspace with h | h <;> cases h

end Decimal

namespace Page

variable {page page' : Page}

theorem mem_words {word : String} (h : word ∈ page.words) :
    word = "LIMIT" ∨ word = "OFFSET" ∨ ∃ n, word = Decimal.ofInt n := by
  rcases List.mem_append.mp h with h | h
  · cases hlimit : page.limit with
    | none =>
      rw [hlimit] at h
      cases h
    | some limit =>
      rw [hlimit] at h
      rcases List.mem_pair.mp h with rfl | rfl
      · exact .inl rfl
      · exact .inr (.inr ⟨limit, rfl⟩)
  · cases hoffset : page.offset with
    | none =>
      rw [hoffset] at h
      cases h
    | some offset =>
      rw [hoffset] at h
      rcases List.mem_pair.mp h with rfl | rfl
      · exact .inr (.inl rfl)
      · exact .inr (.inr ⟨offset.toNat, rfl⟩)

theorem isWord_of_mem_words {word : String} (h : word ∈ page.words) : IsWord word := by
  rcases mem_words h with rfl | rfl | ⟨n, rfl⟩
  · decide
  · decide
  · exact Decimal.isWord_ofInt n

/-- No direction of an order is among the words of a page. -/
theorem keyword_not_mem_words (direction : Direction) : direction.keyword ∉ page.words := by
  have hother : direction.keyword ≠ "LIMIT" ∧ direction.keyword ≠ "OFFSET" ∧
      'S' ∈ direction.keyword.toList := by
    cases direction <;> decide
  obtain ⟨hlimit, hoffset, hletter⟩ := hother
  intro hword
  rcases mem_words hword with h | h | ⟨n, h⟩
  · exact hlimit h
  · exact hoffset h
  · rw [h] at hletter
    rcases Decimal.mem_ofInt hletter with h | h <;> cases h

theorem words_injective (h : page.words = page'.words) : page = page' := by
  obtain ⟨limit, offset⟩ := page
  obtain ⟨limit', offset'⟩ := page'
  have hofInt : ∀ n n', Decimal.ofInt n = Decimal.ofInt n' ↔ n = n' :=
    fun n n' => ⟨Decimal.ofInt_injective, congrArg _⟩
  have hofNat : ∀ n n', Decimal.ofNat n = Decimal.ofNat n' ↔ n = n' :=
    fun n n' => ⟨Decimal.ofNat_injective, congrArg _⟩
  cases limit <;> cases offset <;> cases limit' <;> cases offset' <;>
    simp_all [words, UInt64.toNat_inj]

end Page

theorem Select.pageClause_eq_spaced (dialect : Dialect) (query : Query) :
    (pageClause dialect query.limit query.offset).toList = spaced (query.page dialect).words := by
  have hunbounded : dialect.unboundedLimit = Decimal.ofInt dialect.unboundedCount := by
    cases dialect <;> decide +kernel
  rw [Query.page, Page.words]
  cases query.limit <;> cases query.offset <;>
    simp [pageClause, spaced, hunbounded, Decimal.ofInt]

/-! ## Orders -/

theorem Direction.isWord_keyword (direction : Direction) : IsWord direction.keyword := by
  cases direction <;> decide

theorem Direction.keyword_append_inj {direction direction' : Direction} {rest rest' : List Char}
    (h : direction.keyword.toList ++ rest = direction'.keyword.toList ++ rest') :
    direction = direction' ∧ rest = rest' := by
  cases direction <;> cases direction'
  case ascending.ascending | descending.descending => exact ⟨rfl, List.append_cancel_left h⟩
  all_goals exact absurd (List.cons.inj h).1 (by decide)

/-- A name that reads as the end of an entry and the start of another one. -/
def DividesOrder (name : String) : Prop :=
  ∃ direction : Direction,
    ' ' :: (direction.keyword.toList ++ ", ".toList) <:+: name.toList ++ [' ']

instance (name : String) : Decidable (DividesOrder name) :=
  decidable_of_iff
    (' ' :: (Direction.ascending.keyword.toList ++ ", ".toList) <:+: name.toList ++ [' '] ∨
      ' ' :: (Direction.descending.keyword.toList ++ ", ".toList) <:+: name.toList ++ [' '])
    ⟨fun h => h.elim (⟨_, ·⟩) (⟨_, ·⟩), fun ⟨direction, h⟩ =>
      match direction with
      | .ascending => .inl h
      | .descending => .inr h⟩

namespace OrderEntry

def text (entry : OrderEntry) : List Char :=
  entry.column.toList ++ ' ' :: entry.direction.keyword.toList

/-- The text of entries that follow another one. -/
def moreText (entries : List OrderEntry) : List Char :=
  entries.flatMap fun entry => ", ".toList ++ entry.text

theorem orderClause_cons (entry : OrderEntry) (entries : List OrderEntry) :
    (Select.orderClause (entry :: entries)).toList =
      " ORDER BY ".toList ++ (entry.text ++ moreText entries) := by
  have hjoin : ∀ (first : String) (rest : List String),
      (", ".intercalate (first :: rest)).toList =
        first.toList ++ rest.flatMap fun part => ", ".toList ++ part.toList := by
    intro first rest
    induction rest generalizing first with
    | nil => rw [String.intercalate_singleton, List.flatMap_nil, List.append_nil]
    | cons next rest ih =>
      rw [String.intercalate_cons_cons, String.toList_append, String.toList_append, ih,
        List.flatMap_cons, List.append_assoc, List.append_assoc]
  have htext : ∀ entry : OrderEntry,
      (entry.column ++ " " ++ entry.direction.keyword).toList = entry.text := by
    intro entry
    rw [String.toList_append, String.toList_append, List.append_assoc]
    rfl
  rw [Select.orderClause, String.toList_append, List.map_cons, hjoin, htext, List.flatMap_map]
  · simp only [htext, moreText]
  · exact List.cons_ne_nil entry entries

/-- Another cut of a text after an entry lies beyond the direction of this entry. -/
theorem keyword_starts {direction : Direction} {entries : List OrderEntry} {more rest : List Char}
    (h : direction.keyword.toList ++ moreText entries = more ++ ' ' :: rest) :
    direction.keyword.toList ++ ", ".toList <+: more ++ [' '] := by
  have hword : ' ' ∉ direction.keyword.toList := direction.isWord_keyword
  cases entries with
  | nil =>
    have hspace : ' ' ∈ direction.keyword.toList ++ moreText [] :=
      h ▸ List.mem_append_right _ List.mem_cons_self
    rw [moreText, List.flatMap_nil, List.append_nil] at hspace
    exact absurd hspace hword
  | cons entry entries =>
    have hcut : (direction.keyword.toList ++ [',']) ++ ' ' :: (entry.text ++ moreText entries) =
        more ++ ' ' :: rest := by
      rw [← h, List.append_assoc]
      rfl
    have hcomma : ' ' ∉ direction.keyword.toList ++ [','] := by
      simpa using hword
    have hstarts := prefix_of_cut_first hcomma hcut
    rwa [List.append_assoc] at hstarts

/-- A name that goes on beyond the name of another entry divides orders. -/
theorem eq_nil_of_longer {entry entry' : OrderEntry} {entries entries' : List OrderEntry}
    {more : List Char} (hname : ¬ DividesOrder entry'.column)
    (hcolumn : entry'.column.toList = entry.column.toList ++ more)
    (h : ' ' :: (entry.direction.keyword.toList ++ moreText entries) =
      more ++ ' ' :: (entry'.direction.keyword.toList ++ moreText entries')) : more = [] := by
  cases more with
  | nil => rfl
  | cons first more =>
    obtain ⟨rfl, hmore⟩ := List.cons.inj h
    have hstarts : ' ' :: (entry.direction.keyword.toList ++ ", ".toList) <+:
        ' ' :: more ++ [' '] := (List.prefix_cons_inj ' ').mpr (keyword_starts hmore)
    refine absurd ⟨entry.direction, ?_⟩ hname
    rw [hcolumn, List.append_assoc]
    exact hstarts.isInfix.trans (List.suffix_append _ _).isInfix

/-- An entry is read up to its end, if no name divides orders. -/
theorem text_append_inj {entry entry' : OrderEntry} {entries entries' : List OrderEntry}
    (hname : ¬ DividesOrder entry.column) (hname' : ¬ DividesOrder entry'.column)
    (h : entry.text ++ moreText entries = entry'.text ++ moreText entries') :
    entry = entry' ∧ moreText entries = moreText entries' := by
  have hcolumns : entry.column = entry'.column := by
    rw [text, text, List.append_assoc, List.append_assoc] at h
    rcases List.append_eq_append_iff.mp h with ⟨more, hcolumn, hmore⟩ | ⟨more, hcolumn, hmore⟩
    · obtain rfl := eq_nil_of_longer hname' hcolumn hmore
      exact String.toList_inj.mp (by rw [hcolumn, List.append_nil])
    · obtain rfl := eq_nil_of_longer hname hcolumn hmore
      exact String.toList_inj.mp (by rw [hcolumn, List.append_nil])
  rw [text, text, hcolumns, List.append_assoc, List.append_assoc] at h
  have hrest := (List.cons.inj (List.append_cancel_left h)).2
  obtain ⟨hdirection, hentries⟩ := Direction.keyword_append_inj hrest
  obtain ⟨column, direction⟩ := entry
  obtain ⟨column', direction'⟩ := entry'
  obtain rfl : column = column' := hcolumns
  obtain rfl : direction = direction' := hdirection
  exact ⟨rfl, hentries⟩

theorem moreText_injective {entries entries' : List OrderEntry}
    (hnames : ∀ entry ∈ entries, ¬ DividesOrder entry.column)
    (hnames' : ∀ entry ∈ entries', ¬ DividesOrder entry.column)
    (h : moreText entries = moreText entries') : entries = entries' := by
  induction entries generalizing entries' with
  | nil =>
    cases entries' with
    | nil => rfl
    | cons entry' rest' => cases h
  | cons entry rest ih =>
    cases entries' with
    | nil => cases h
    | cons entry' rest' =>
      obtain ⟨hname, hrest⟩ := List.forall_mem_cons.mp hnames
      obtain ⟨hname', hrest'⟩ := List.forall_mem_cons.mp hnames'
      rw [moreText, moreText, List.flatMap_cons, List.flatMap_cons, List.append_assoc,
        List.append_assoc] at h
      obtain ⟨rfl, hmore⟩ := text_append_inj hname hname' (List.append_cancel_left h)
      rw [ih hrest hrest' hmore]

end OrderEntry

namespace Select

/-- Orders with the same clause are the same, if no name in them divides orders. -/
theorem order_of_clause {order order' : List OrderEntry}
    (hnames : ∀ entry ∈ order, ¬ DividesOrder entry.column)
    (hnames' : ∀ entry ∈ order', ¬ DividesOrder entry.column)
    (h : orderClause order = orderClause order') : order = order' := by
  have htext : (orderClause order).toList = (orderClause order').toList := congrArg _ h
  cases order with
  | nil =>
    cases order' with
    | nil => rfl
    | cons entry' rest' =>
      rw [OrderEntry.orderClause_cons] at htext
      cases htext
  | cons entry rest =>
    cases order' with
    | nil =>
      rw [OrderEntry.orderClause_cons] at htext
      cases htext
    | cons entry' rest' =>
      rw [OrderEntry.orderClause_cons, OrderEntry.orderClause_cons] at htext
      refine OrderEntry.moreText_injective hnames hnames' ?_
      exact congrArg (", ".toList ++ ·) (List.append_cancel_left htext)

/-- An order ends with a direction. If there is none, what stands before it may be one. -/
theorem exists_orderClause_eq (order : List OrderEntry) :
    ∃ (start : List Char) (direction : Direction),
      spaced ["ASC"] ++ (orderClause order).toList = start ++ spaced [direction.keyword] := by
  have hlast : ∀ entry : OrderEntry, entry.text =
      entry.column.toList ++ spaced [entry.direction.keyword] := fun entry =>
    congrArg (_ ++ ' ' :: ·) (List.append_nil _).symm
  cases order with
  | nil => exact ⟨[], .ascending, List.append_nil _⟩
  | cons first rest =>
    rw [OrderEntry.orderClause_cons]
    rcases List.eq_nil_or_concat' rest with rfl | ⟨more, last, rfl⟩
    · refine ⟨spaced ["ASC"] ++ (" ORDER BY ".toList ++ first.column.toList), first.direction, ?_⟩
      rw [OrderEntry.moreText, List.flatMap_nil, List.append_nil, hlast]
      simp only [List.append_assoc]
    · refine ⟨spaced ["ASC"] ++ (" ORDER BY ".toList ++ (first.text ++ (OrderEntry.moreText more ++
        (", ".toList ++ last.column.toList)))), last.direction, ?_⟩
      rw [OrderEntry.moreText, List.flatMap_append, List.flatMap_singleton, hlast last]
      simp only [OrderEntry.moreText, List.append_assoc]

/-- The order and the page are read from the end of a reading, from its last word on. -/
theorem page_of_ending (dialect : Dialect) {query query' : Query}
    (h : ending dialect query.order query.limit query.offset =
      ending dialect query'.order query'.limit query'.offset) :
    query.page dialect = query'.page dialect ∧
      orderClause query.order = orderClause query'.order := by
  have hending : ∀ (query : Query) {start : List Char} {direction : Direction},
      spaced ["ASC"] ++ (orderClause query.order).toList = start ++ spaced [direction.keyword] →
        spaced ["ASC"] ++ ending dialect query.order query.limit query.offset =
          start ++ spaced (direction.keyword :: (query.page dialect).words) := by
    intro query start direction hstart
    rw [ending, pageClause_eq_spaced, ← List.append_assoc, hstart, List.append_assoc, spaced,
      spaced, ← List.flatMap_append]
    rfl
  obtain ⟨start, direction, hstart⟩ := exists_orderClause_eq query.order
  obtain ⟨start', direction', hstart'⟩ := exists_orderClause_eq query'.order
  have hspaced := (hending query hstart).symm.trans
    ((congrArg (spaced ["ASC"] ++ ·) h).trans (hending query' hstart'))
  obtain ⟨rfl, hkeyword, hpage⟩ := spaced_injective direction.isWord_keyword
    direction'.isWord_keyword (fun _ => Page.isWord_of_mem_words)
    (fun _ => Page.isWord_of_mem_words) (Page.keyword_not_mem_words _)
    (Page.keyword_not_mem_words _) hspaced
  rw [← hkeyword, ← hstart] at hstart'
  exact ⟨Page.words_injective hpage,
    String.toList_inj.mp (List.append_cancel_left hstart').symm⟩

/-! ## Readings with the same text -/

/-- Readings of a registered table with the same text have the same page and the same clause of
their order. They have the same order too, unless the name of a column divides orders. -/
theorem ending_determined (catalogue : Catalogue) (dialect : Dialect) {schema : Schema}
    (hschema : schema ∈ catalogue.schemas) {query query' : Query} {select select' : Select}
    (h : ofQuery schema query = .ok select) (h' : ofQuery schema query' = .ok select')
    (htext : select.render dialect = select'.render dialect) :
    query.page dialect = query'.page dialect ∧
      orderClause query.order = orderClause query'.order ∧
      ((∀ column ∈ schema.columns, ¬ DividesOrder column.name) → query.order = query'.order) := by
  have hending := ending_eq_of_render dialect (catalogue.consistent.quotable hschema) h h' htext
  obtain ⟨hpage, horder⟩ := page_of_ending dialect hending
  have hdeclared : ∀ {query : Query} {select : Select}, ofQuery schema query = .ok select →
      (∀ column ∈ schema.columns, ¬ DividesOrder column.name) →
        ∀ entry ∈ query.order, ¬ DividesOrder entry.column := by
    intro query select h hnames entry hentry
    obtain ⟨column, hcolumn⟩ := (Query.select_ok_iff.mp ⟨select, h⟩).1.order entry hentry
    have hname : column.name = entry.column := by simpa using List.find?_some hcolumn
    exact hname ▸ hnames column (List.mem_of_find?_eq_some hcolumn)
  exact ⟨hpage, horder, fun hnames =>
    order_of_clause (hdeclared h hnames) (hdeclared h' hnames) horder⟩

/-- Two tables, where a column of the first has a name that reads as two entries of an order. -/
def games : Catalogue where
  dialect := .mariadb
  schemas := [
    { table := "game"
      columns := [.primary "id", .regular "round" .int32 true, .regular "points" .int32 true,
        .regular "round ASC, points" .int32 true]
      relations := [] },
    { table := "player"
      columns := [.primary "id", .regular "last name" (.varchar 40) true,
        .regular "ASC, LIMIT 1" .int32 true]
      relations := [] }]
  valid := rfl

/-- An offset alone, and the same offset with the greatest limit. -/
theorem ending_determined_players :
    let order : List OrderEntry := [⟨"last name", .descending⟩, ⟨"ASC, LIMIT 1", .ascending⟩]
    let query : Query := { order, offset := some 20 }
    let query' : Query := { order, limit := some 18446744073709551615, offset := some 20 }
    query.page .mariadb = query'.page .mariadb ∧
      orderClause query.order = orderClause query'.order ∧ query.order = query'.order := by
  intro order query query'
  obtain ⟨schema, hschema, hcolumns, select, select', h, h', htext⟩ :
      ∃ schema ∈ games.schemas, (∀ column ∈ schema.columns, ¬ DividesOrder column.name) ∧
        ∃ select select', ofQuery schema query = .ok select ∧ ofQuery schema query' = .ok select' ∧
          select.render .mariadb = select'.render .mariadb :=
    ⟨_, List.mem_cons_of_mem _ List.mem_cons_self, by decide, _, _, rfl, rfl, by decide +kernel⟩
  obtain ⟨hpage, hclause, horder⟩ := ending_determined games .mariadb hschema h h' htext
  exact ⟨hpage, hclause, horder hcolumns⟩

/-- One column and two columns to order by, with the same text in both dialects. -/
theorem not_ending_determined_games :
    ∃ schema ∈ games.schemas, ∃ query query' select select',
      query.order = [⟨"round", .ascending⟩, ⟨"points", .ascending⟩] ∧
      query'.order = [⟨"round ASC, points", .ascending⟩] ∧
      ofQuery schema query = .ok select ∧ ofQuery schema query' = .ok select' ∧
      ∀ dialect, select.render dialect =
          "SELECT * FROM `game` ORDER BY round ASC, points ASC" ∧
        select'.render dialect = select.render dialect := by
  refine ⟨_, List.mem_cons_self, { order := [⟨"round", .ascending⟩, ⟨"points", .ascending⟩] },
    { order := [⟨"round ASC, points", .ascending⟩] }, _, _, rfl, rfl, rfl, rfl, fun dialect => ?_⟩
  cases dialect <;> decide +kernel

end Select

end RecordMapper
