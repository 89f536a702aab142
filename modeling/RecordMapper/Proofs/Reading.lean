import RecordMapper.Proofs.Decimal
import RecordMapper.Proofs.Token
import RecordMapper.Predicate

/-!
# Reading statements back

* `SqlReader`: a computation that takes characters from the start of a text.
* `SqlReader.symbol`, `SqlReader.name`, `SqlReader.number`, `SqlReader.literal`,
  `SqlReader.separated`: readers for the parts of statements.
* `SqlReader.run_literal` and the like: what was written is read back, whatever ends it.
* `SqlReader.quoted_delimits`: a quoted text ends where it should.
-/

namespace RecordMapper

/-- Takes something from the start of a text, and leaves what follows it. -/
abbrev SqlReader (α : Type) := StateT (List Char) Option α

/-- What may follow a name, a number, a text or a keyword: nothing, or one of these characters. -/
def Ends (rest : List Char) : Prop := ∀ c ∈ rest.head?, c = ' ' ∨ c = ',' ∨ c = ')'

theorem ends_nil : Ends [] := by
  intro c hc
  cases hc

/-- Whether a text starts with one of the characters that may follow. -/
def isEnding (s : String) : Bool :=
  s.toList.head?.any fun c => c == ' ' || c == ',' || c == ')'

theorem ends_of_isEnding {s : String} (h : isEnding s) (rest : List Char) :
    Ends (s.toList ++ rest) := by
  intro c hc
  rw [isEnding] at h
  cases hs : s.toList with
  | nil =>
    rw [hs] at h
    cases h
  | cons d chars =>
    rw [hs] at h hc
    obtain rfl : d = c := Option.some.inj hc
    simpa [or_assoc] using h

theorem Ends.not_isDigit {rest : List Char} (h : Ends rest) :
    ∀ c ∈ rest.head?, c.isDigit = false := by
  intro c hc
  rcases h c hc with rfl | rfl | rfl <;> rfl

namespace SqlReader

variable {α β : Type}

/-! ## Parts of statements -/

/-- Takes the given characters. -/
def symbol (s : String) : SqlReader Unit := fun text =>
  if s.toList.isPrefixOf text then some ((), text.drop s.toList.length) else none

/-- Takes a name between backticks. -/
def name : SqlReader String := fun text =>
  (Dialect.nameRule.read text).map fun r => (String.ofList r.1, r.2)

/-- Takes a text between the quotes of a dialect. -/
def quoted (dialect : Dialect) : SqlReader String := fun text =>
  (dialect.quoteRule.read text).map fun r => (String.ofList r.1, r.2)

/-- Takes characters of a kind. -/
def span (p : Char → Bool) : SqlReader String := fun text =>
  some (String.ofList (text.takeWhile p), text.dropWhile p)

/-- Takes the characters up to a space. -/
def word : SqlReader String :=
  span (· != ' ')

/-- Takes digits. -/
def number : SqlReader Nat := fun text =>
  match text.takeWhile Char.isDigit with
  | [] => none
  | digits => some (Nat.ofDigitChars 10 digits 0, text.dropWhile Char.isDigit)

/-- Takes a literal. The first character tells its kind. -/
def literal (dialect : Dialect) : SqlReader Literal := do
  match (← get).head? with
  | none => failure
  | some c =>
    if c = 'N' then
      symbol "NULL"
      return .null
    else if c = '-' then
      symbol "-"
      return .integer (-(← number))
    else if c.isDigit then return .integer (← number)
    else return .text (← quoted dialect)

/-- Takes an operator. -/
def operator : SqlReader Operator := do
  match Operator.ofToken? (← word) with
  | some operator => return operator
  | none => failure

/-- Takes a connective. -/
def connective : SqlReader Connective := do
  match ← word with
  | "AND" => return .and
  | "OR" => return .or
  | _ => failure

/-- Takes one thing or more with commas between them, as long as there are bounds for them. -/
def separated (item : SqlReader α) : Nat → SqlReader (List α)
  | 0 => failure
  | bound + 1 => do
    let first ← item
    if (← get).head? = some ',' then
      symbol ", "
      return first :: (← separated item bound)
    else return [first]

/-! ## Reading what was written -/

theorem run_get (text : List Char) : (get : SqlReader (List Char)).run text = some (text, text) :=
  rfl

/-- A reader goes on where another one stopped. -/
theorem run_bind_of {x : SqlReader α} {f : α → SqlReader β} {text rest : List Char} {a : α}
    (h : x.run text = some (a, rest)) : (x >>= f).run text = (f a).run rest := by
  rw [StateT.run_bind, h]
  rfl

theorem run_symbol (s : String) (rest : List Char) :
    (symbol s).run (s.toList ++ rest) = some ((), rest) := by
  have hprefix : s.toList.isPrefixOf (s.toList ++ rest) :=
    List.isPrefixOf_iff_prefix.mpr ⟨rest, rfl⟩
  rw [StateT.run, symbol, if_pos hprefix, List.drop_left]

theorem run_name {n : String} (hname : Quotable n) {rest : List Char} (hrest : Ends rest) :
    name.run ((Dialect.identifier n).toList ++ rest) = some (n, rest) := by
  have hhead : rest.head? ≠ some Dialect.nameRule.quote := by
    intro hc
    rcases hrest _ hc with h | h | h <;> cases h
  rw [StateT.run, name, Dialect.read_identifier hname hhead, Option.map_some, String.ofList_toList]

theorem run_quoted (dialect : Dialect) (text : String) {rest : List Char} (hrest : Ends rest) :
    (quoted dialect).run ((dialect.quoteText text).toList ++ rest) = some (text, rest) := by
  have hhead : rest.head? ≠ some dialect.quoteRule.quote := by
    intro hc
    cases dialect <;> rcases hrest _ hc with h | h | h <;> cases h
  rw [StateT.run, quoted, dialect.read_quoteText text hhead, Option.map_some, String.ofList_toList]

theorem run_span {p : Char → Bool} {s : String} (hs : s.toList.all p) {rest : List Char}
    (hrest : ∀ c ∈ rest.head?, p c = false) :
    (span p).run (s.toList ++ rest) = some (s, rest) := by
  obtain ⟨htake, hdrop⟩ := takeWhile_append_of_head (List.all_eq_true.mp hs) hrest
  rw [StateT.run, span, htake, hdrop, String.ofList_toList]

theorem run_word {s : String} (hs : s.toList.all (· != ' ')) {rest : List Char}
    (hrest : rest.head? = some ' ') : word.run (s.toList ++ rest) = some (s, rest) := by
  refine run_span hs ?_
  rw [hrest]
  rintro _ ⟨⟩
  rfl

theorem run_operator (op : Operator) {rest : List Char} (hrest : rest.head? = some ' ') :
    operator.run (op.token.toList ++ rest) = some (op, rest) := by
  have hword : op.token.toList.all (· != ' ') := by cases op <;> rfl
  rw [operator, run_bind_of (run_word hword hrest), Operator.ofToken?_token]
  rfl

theorem run_connective (c : Connective) {rest : List Char} (hrest : rest.head? = some ' ') :
    connective.run (c.keyword.toList ++ rest) = some (c, rest) := by
  have hword : c.keyword.toList.all (· != ' ') := by cases c <;> rfl
  rw [connective, run_bind_of (run_word hword hrest)]
  cases c <;> rfl

theorem run_number (n : Nat) {rest : List Char} (hrest : Ends rest) :
    number.run ((Decimal.ofNat n).toList ++ rest) = some (n, rest) := by
  obtain ⟨htake, hdrop⟩ := takeWhile_append_of_head
    (fun c hc => Decimal.isDigit_of_mem_ofNat hc) hrest.not_isDigit
  rw [StateT.run, number, htake, hdrop]
  split
  · next h => exact absurd h (Decimal.ofNat_ne_nil n)
  · rw [Decimal.ofDigitChars_ofNat]

section Literals

variable (dialect : Dialect) {rest : List Char}

/-- A literal is read according to its first character. -/
theorem run_literal_of_head {text : List Char} {c : Char} (hc : text.head? = some c) :
    (literal dialect).run text =
      (if c = 'N' then do
        symbol "NULL"
        return .null
      else if c = '-' then do
        symbol "-"
        return .integer (-(← number))
      else if c.isDigit then return .integer (← number)
      else return .text (← quoted dialect) : SqlReader Literal).run text := by
  rw [literal, run_bind_of (run_get text), hc]

theorem run_null : (literal dialect).run ("NULL".toList ++ rest) = some (.null, rest) := by
  have hhead : ("NULL".toList ++ rest).head? = some 'N' := rfl
  rw [run_literal_of_head dialect hhead, if_pos rfl, run_bind_of (run_symbol "NULL" rest)]
  rfl

theorem run_natural (n : Nat) (hrest : Ends rest) :
    (literal dialect).run ((Decimal.ofNat n).toList ++ rest) = some (.integer n, rest) := by
  obtain ⟨c, hhead, hdigit⟩ : ∃ c, ((Decimal.ofNat n).toList ++ rest).head? = some c ∧
      c.isDigit = true := by
    cases hdigits : (Decimal.ofNat n).toList with
    | nil => exact absurd hdigits (Decimal.ofNat_ne_nil n)
    | cons c digits =>
      exact ⟨c, rfl, Decimal.isDigit_of_mem_ofNat (hdigits ▸ List.mem_cons_self)⟩
  have hnull : c ≠ 'N' := by
    rintro rfl
    cases hdigit
  have hsign : c ≠ '-' := by
    rintro rfl
    cases hdigit
  rw [run_literal_of_head dialect hhead, if_neg hnull, if_neg hsign, if_pos hdigit,
    run_bind_of (run_number n hrest)]
  rfl

theorem run_negative (n : Nat) (hrest : Ends rest) :
    (literal dialect).run (("-" ++ Decimal.ofNat n).toList ++ rest) =
      some (.integer (-n), rest) := by
  rw [String.toList_append, List.append_assoc]
  have hhead : ("-".toList ++ ((Decimal.ofNat n).toList ++ rest)).head? = some '-' := rfl
  rw [run_literal_of_head dialect hhead, if_neg (by decide), if_pos rfl,
    run_bind_of (run_symbol "-" _), run_bind_of (run_number n hrest)]
  rfl

theorem run_text (content : String) (hrest : Ends rest) :
    (literal dialect).run ((dialect.quoteText content).toList ++ rest) =
      some (.text content, rest) := by
  have hhead : ((dialect.quoteText content).toList ++ rest).head? =
      some dialect.quoteRule.quote := by
    rw [Dialect.quoteText, String.toList_ofList]
    rfl
  have hnull : dialect.quoteRule.quote ≠ 'N' := by cases dialect <;> decide
  have hsign : dialect.quoteRule.quote ≠ '-' := by cases dialect <;> decide
  have hdigit : ¬ dialect.quoteRule.quote.isDigit := by cases dialect <;> decide
  rw [run_literal_of_head dialect hhead, if_neg hnull, if_neg hsign, if_neg hdigit,
    run_bind_of (run_quoted dialect content hrest)]
  rfl

theorem run_literal (l : Literal) (hrest : Ends rest) :
    (literal dialect).run ((dialect.literal l).toList ++ rest) = some (l, rest) := by
  cases l with
  | null => exact run_null dialect
  | integer n =>
    cases n with
    | ofNat n => exact run_natural dialect n hrest
    | negSucc n => exact run_negative dialect (n + 1) hrest
  | text content => exact run_text dialect content hrest

end Literals

/-- A list of names starts with a backtick. -/
theorem head?_names {names : List String} (hne : names ≠ []) (rest : List Char) :
    ((", ".intercalate (names.map Dialect.identifier)).toList ++ rest).head? = some '\x60' := by
  cases names with
  | nil => exact absurd rfl hne
  | cons n ns =>
    cases ns with
    | nil =>
      rw [List.map_cons, List.map_nil, String.intercalate_singleton, Dialect.identifier,
        String.append_assoc, String.toList_append]
      rfl
    | cons next ns =>
      rw [List.map_cons, List.map_cons, String.intercalate_cons_cons, Dialect.identifier,
        String.append_assoc, String.append_assoc, String.append_assoc, String.toList_append]
      rfl

theorem length_le_intercalate {render : α → String} {xs : List α}
    (h : ∀ x ∈ xs, 1 ≤ (render x).toList.length) :
    xs.length ≤ (", ".intercalate (xs.map render)).toList.length := by
  induction xs with
  | nil => exact Nat.zero_le _
  | cons x xs ih =>
    obtain ⟨hx, hxs⟩ := List.forall_mem_cons.mp h
    cases xs with
    | nil =>
      rw [List.map_cons, List.map_nil, String.intercalate_singleton]
      exact hx
    | cons y ys =>
      have hrest := ih hxs
      rw [List.map_cons, List.map_cons, String.intercalate_cons_cons, ← List.map_cons,
        String.toList_append, String.toList_append, List.length_append, List.length_append,
        List.length_cons]
      omega

theorem one_le_length_identifier (n : String) : 1 ≤ (Dialect.identifier n).toList.length := by
  rw [Dialect.identifier, String.append_assoc, String.toList_append, List.length_append]
  exact Nat.le_add_right 1 _

/-- A list of parts that are read back one by one, each before what may follow it. -/
theorem run_separated_of {E : List Char → Prop} (hsep : ∀ rest, E (", ".toList ++ rest))
    {item : SqlReader α} {render : β → String} {value : β → α} {xs : List β}
    (hitem : ∀ x ∈ xs, ∀ rest, E rest → item.run ((render x).toList ++ rest) = some (value x, rest))
    (hne : xs ≠ []) {bound : Nat} (hbound : xs.length ≤ bound) {rest : List Char}
    (hrest : E rest) (hcomma : rest.head? ≠ some ',') :
    (separated item bound).run ((", ".intercalate (xs.map render)).toList ++ rest) =
      some (xs.map value, rest) := by
  induction xs generalizing bound with
  | nil => exact absurd rfl hne
  | cons x xs ih =>
    obtain ⟨hx, hxs⟩ := List.forall_mem_cons.mp hitem
    obtain ⟨bound, rfl⟩ : ∃ b, bound = b + 1 := by
      cases bound with
      | zero => cases hbound
      | succ b => exact ⟨b, rfl⟩
    cases xs with
    | nil =>
      rw [List.map_cons, List.map_nil, String.intercalate_singleton, separated,
        run_bind_of (hx rest hrest), run_bind_of (run_get rest), if_neg hcomma]
      rfl
    | cons y ys =>
      have hmore := ih hxs (List.cons_ne_nil y ys) (Nat.le_of_succ_le_succ hbound)
      have hends : E (", ".toList ++ ((", ".intercalate ((y :: ys).map render)).toList ++ rest)) :=
        hsep _
      have hhead : (", ".toList ++ ((", ".intercalate ((y :: ys).map render)).toList ++ rest)).head?
          = some ',' := rfl
      rw [List.map_cons, List.map_cons, String.intercalate_cons_cons, ← List.map_cons,
        String.toList_append, String.toList_append, List.append_assoc, List.append_assoc,
        separated, run_bind_of (hx _ hends), run_bind_of (run_get _), if_pos hhead,
        run_bind_of (run_symbol ", " _), run_bind_of hmore]
      rfl

theorem run_separated {item : SqlReader α} {render : β → String} {value : β → α} {xs : List β}
    (hitem : ∀ x ∈ xs, ∀ rest, Ends rest →
      item.run ((render x).toList ++ rest) = some (value x, rest))
    (hne : xs ≠ []) {bound : Nat} (hbound : xs.length ≤ bound) {rest : List Char}
    (hrest : Ends rest) (hcomma : rest.head? ≠ some ',') :
    (separated item bound).run ((", ".intercalate (xs.map render)).toList ++ rest) =
      some (xs.map value, rest) :=
  run_separated_of (fun _ => ends_of_isEnding rfl _) hitem hne hbound hrest hcomma

/-! ## Texts and what follows them -/

/-- A reader takes the text between quotes with which its input starts, however it is spelled. -/
theorem run_quoted_eq_some_iff {dialect : Dialect} {input rest : List Char} {content : String} :
    (quoted dialect).run input = some (content, rest) ↔
      ∃ literal, dialect.quoteRule.Opens input literal content.toList rest := by
  rw [← Text.QuoteRule.read_eq_some_iff dialect.escape_ne_quote]
  constructor
  · intro h
    obtain ⟨⟨content', rest'⟩, hread, h⟩ := Option.map_eq_some_iff.mp h
    cases h
    rw [hread, String.toList_ofList]
  · intro hread
    rw [StateT.run, quoted, hread, Option.map_some, String.ofList_toList]

theorem opens_quoteText (dialect : Dialect) (text : String) {rest : List Char}
    (hrest : rest.head? ≠ some dialect.quoteRule.quote) :
    dialect.quoteRule.Opens ((dialect.quoteText text).toList ++ rest)
      (dialect.quoteText text).toList text.toList rest := by
  rw [Dialect.quoteText, String.toList_ofList]
  exact dialect.quoteRule.opens_write text.toList hrest

/-- Before anything that starts with no quote of the dialect, a quoted text is read back and is all
that is read: no other way to cut the input gives a text between quotes and something that starts
with no quote. So neither the text nor what follows it can be another one. -/
theorem quoted_delimits (dialect : Dialect) (text : String) {rest : List Char}
    (hrest : rest.head? ≠ some dialect.quoteRule.quote) :
    (quoted dialect).run ((dialect.quoteText text).toList ++ rest) = some (text, rest) ∧
      (∀ literal content rest',
        dialect.quoteRule.Opens ((dialect.quoteText text).toList ++ rest) literal content rest' ↔
          literal = (dialect.quoteText text).toList ∧ content = text.toList ∧ rest' = rest) ∧
      ∀ (text' : String) (rest' : List Char), rest'.head? ≠ some dialect.quoteRule.quote →
        (dialect.quoteText text).toList ++ rest = (dialect.quoteText text').toList ++ rest' →
          text = text' ∧ rest = rest' := by
  have hopens := opens_quoteText dialect text hrest
  refine ⟨run_quoted_eq_some_iff.mpr ⟨_, hopens⟩, fun literal content rest' => ⟨?_, ?_⟩, ?_⟩
  · intro hother
    exact hother.unique dialect.escape_ne_quote hopens
  · rintro ⟨rfl, rfl, rfl⟩
    exact hopens
  · intro text' rest' hrest' hinput
    have hopens' := opens_quoteText dialect text' hrest'
    rw [← hinput] at hopens'
    obtain ⟨-, htext, hrest⟩ := hopens.unique dialect.escape_ne_quote hopens'
    exact ⟨String.toList_inj.mp htext, hrest⟩

/-- A text that ends with a quote and a backslash, at the end of a condition. -/
theorem quoted_delimits_backslash :
    [')'].head? ≠ some Dialect.mariadb.quoteRule.quote ∧
      (quoted .mariadb).run ((Dialect.mariadb.quoteText "5\"\\").toList ++ [')']) =
        some ("5\"\\", [')']) ∧
      (∀ literal content rest,
        Dialect.mariadb.quoteRule.Opens ((Dialect.mariadb.quoteText "5\"\\").toList ++ [')'])
            literal content rest ↔
          literal = (Dialect.mariadb.quoteText "5\"\\").toList ∧ content = "5\"\\".toList ∧
            rest = [')']) ∧
      ∀ (text : String) (rest : List Char), rest.head? ≠ some Dialect.mariadb.quoteRule.quote →
        (Dialect.mariadb.quoteText "5\"\\").toList ++ [')'] =
            (Dialect.mariadb.quoteText text).toList ++ rest →
          "5\"\\" = text ∧ [')'] = rest := by
  have hrest : [')'].head? ≠ some Dialect.mariadb.quoteRule.quote := by decide
  exact ⟨hrest, quoted_delimits .mariadb "5\"\\" hrest⟩

end SqlReader

end RecordMapper
