import Mathlib.Data.List.Forall2
import RecordMapper.Dialect
import RecordMapper.Proofs.Text.Quoted

/-!
# Tokens

How a store splits the text of a statement: names between backticks, texts between the quotes of the
dialect, and other characters.

* `Dialect.tokens`: the tokens of any text.
* `Dialect.Clear`: what may follow a name or a text without running into it.
* `Alike`: token sequences that differ only in the contents of texts.
* `Dialect.ReadAlike`: statements that are read into such sequences. The lemmas of this namespace
  follow the way in which statements are put together: plain characters, a name or a text after
  them, plain characters again.
-/

namespace RecordMapper

/-- A name that stands between backticks as it is. -/
def Quotable (name : String) : Prop := '\x60' ∉ name.toList

instance (name : String) : Decidable (Quotable name) :=
  inferInstanceAs (Decidable ('\x60' ∉ name.toList))

/-! ## Tokens of a text -/

/-- A part of a statement that is a unit to the store. -/
inductive Token where
  /-- What stands between backticks. -/
  | name (content : String)
  /-- What stands between the quotes of the dialect. -/
  | text (content : String)
  | other (c : Char)
deriving DecidableEq, Repr

namespace Dialect

/-- How both dialects write names. -/
def nameRule : Text.QuoteRule := { quote := '\x60', escape := none }

/-- The first token of a text, and what follows it. A quote that nothing closes is a character like
any other. -/
def firstToken? (dialect : Dialect) : List Char → Option (Token × List Char)
  | [] => none
  | c :: rest =>
    match nameRule.read (c :: rest) with
    | some (content, rest') => some (.name (String.ofList content), rest')
    | none =>
      match dialect.quoteRule.read (c :: rest) with
      | some (content, rest') => some (.text (String.ofList content), rest')
      | none => some (.other c, rest)

theorem length_lt_of_firstToken? {dialect : Dialect} {text : List Char} {token : Token}
    {rest : List Char} (h : dialect.firstToken? text = some (token, rest)) :
    rest.length < text.length := by
  cases text with
  | nil => cases h
  | cons c tail =>
    rw [firstToken?] at h
    split at h
    · next hname =>
      cases h
      exact nameRule.length_lt_of_read hname
    · split at h
      · next htext =>
        cases h
        exact dialect.quoteRule.length_lt_of_read htext
      · cases h
        simp

/-- The tokens of a text. -/
def tokens (dialect : Dialect) (text : List Char) : List Token :=
  match _h : dialect.firstToken? text with
  | none => []
  | some (token, rest) => token :: dialect.tokens rest
termination_by text.length
decreasing_by exact length_lt_of_firstToken? ‹_›

theorem tokens_of_firstToken? {dialect : Dialect} {text : List Char} {token : Token}
    {rest : List Char} (h : dialect.firstToken? text = some (token, rest)) :
    dialect.tokens text = token :: dialect.tokens rest := by
  rw [tokens]
  split
  · next h' => cases h.symm.trans h'
  · next h' =>
    cases h.symm.trans h'
    rfl

theorem escape_ne_quote (dialect : Dialect) :
    dialect.quoteRule.escape ≠ some dialect.quoteRule.quote := by
  cases dialect <;> decide

theorem quote_ne_backtick (dialect : Dialect) : dialect.quoteRule.quote ≠ '\x60' := by
  cases dialect <;> decide

/-- What follows starts with no quote of the dialect and no backtick, so that it cannot run into a
name or a text before it. -/
def Clear (dialect : Dialect) (rest : List Char) : Prop :=
  rest.head? ≠ some nameRule.quote ∧ rest.head? ≠ some dialect.quoteRule.quote

theorem clear_nil (dialect : Dialect) : dialect.Clear [] := ⟨nofun, nofun⟩

theorem tokens_other {dialect : Dialect} {c : Char} (h : dialect.Clear [c]) (rest : List Char) :
    dialect.tokens (c :: rest) = .other c :: dialect.tokens rest := by
  have hname : c ≠ nameRule.quote := fun hc => h.1 (congrArg some hc)
  have htext : c ≠ dialect.quoteRule.quote := fun hc => h.2 (congrArg some hc)
  refine tokens_of_firstToken? ?_
  rw [firstToken?, nameRule.read_of_ne hname, dialect.quoteRule.read_of_ne htext]

/-- A name without backticks, read before anything that starts with no backtick. -/
theorem read_identifier {name : String} (hname : Quotable name) {rest : List Char}
    (hrest : rest.head? ≠ some nameRule.quote) :
    nameRule.read ((identifier name).toList ++ rest) = some (name.toList, rest) := by
  have hencode : nameRule.encode name.toList = name.toList := by
    refine nameRule.encode_of_not_doubled fun c hc => ?_
    have hne : c ≠ '\x60' := fun h => hname (h ▸ hc)
    simp [Text.QuoteRule.doubles, nameRule, hne]
  have hwrite : (identifier name).toList = nameRule.write name.toList := by
    rw [Text.QuoteRule.write, hencode, identifier, String.toList_append, String.toList_append]
    rfl
  have hescape : nameRule.escape ≠ some nameRule.quote := by
    intro h
    cases h
  rw [hwrite]
  exact (Text.QuoteRule.read_write_iff hescape _ _).mpr hrest

theorem read_quoteText (dialect : Dialect) (text : String) {rest : List Char}
    (hrest : rest.head? ≠ some dialect.quoteRule.quote) :
    dialect.quoteRule.read ((dialect.quoteText text).toList ++ rest) =
      some (text.toList, rest) := by
  rw [quoteText, String.toList_ofList]
  exact (Text.QuoteRule.read_write_iff dialect.escape_ne_quote _ _).mpr hrest

theorem tokens_identifier {dialect : Dialect} {name : String} (hname : Quotable name)
    {rest : List Char} (hrest : dialect.Clear rest) :
    dialect.tokens ((identifier name).toList ++ rest) = .name name :: dialect.tokens rest := by
  refine tokens_of_firstToken? ?_
  have hread := read_identifier hname hrest.1
  have hcons : (identifier name).toList = '\x60' :: (name ++ "`").toList := by
    rw [identifier, String.append_assoc, String.toList_append]
    rfl
  rw [hcons, List.cons_append] at hread ⊢
  rw [firstToken?, hread]
  simp

theorem tokens_quoteText {dialect : Dialect} (text : String) {rest : List Char}
    (hrest : dialect.Clear rest) :
    dialect.tokens ((dialect.quoteText text).toList ++ rest) =
      .text text :: dialect.tokens rest := by
  refine tokens_of_firstToken? ?_
  have hread := dialect.read_quoteText text hrest.2
  rw [quoteText, String.toList_ofList, Text.QuoteRule.write, List.cons_append,
    List.cons_append] at hread ⊢
  rw [firstToken?, nameRule.read_of_ne dialect.quote_ne_backtick, hread]
  simp

end Dialect

/-! ## Sequences that are alike -/

/-- Two token sequences that are the same except for the contents of texts. The contents that may
differ are, in their order, `texts` in the first sequence and `texts'` in the second. -/
inductive Alike : List Token → List String → List Token → List String → Prop
  | nil : Alike [] [] [] []
  | same (token : Token) {tokens tokens' : List Token} {texts texts' : List String} :
      Alike tokens texts tokens' texts' → Alike (token :: tokens) texts (token :: tokens') texts'
  | text (content content' : String) {tokens tokens' : List Token} {texts texts' : List String} :
      Alike tokens texts tokens' texts' →
        Alike (.text content :: tokens) (content :: texts) (.text content' :: tokens')
          (content' :: texts')

namespace Alike

theorem refl (tokens : List Token) : Alike tokens [] tokens [] := by
  induction tokens with
  | nil => exact .nil
  | cons token _ ih => exact .same token ih

theorem append {s s' u u' : List Token} {ts ts' vs vs' : List String} (h : Alike s ts s' ts')
    (h' : Alike u vs u' vs') : Alike (s ++ u) (ts ++ vs) (s' ++ u') (ts' ++ vs') := by
  induction h with
  | nil => exact h'
  | same token _ ih => exact .same token ih
  | text content content' _ ih => exact .text content content' ih

end Alike

/-- Characters that are neither backticks nor quotes of a dialect. -/
def isPlain (s : String) : Bool :=
  s.toList.all fun c => c != '\x60' && c != '\'' && c != '"'

/-- Characters that can stand between names and texts. -/
def isSeparator (s : String) : Bool :=
  !s.toList.isEmpty && isPlain s

theorem isPlain_of_isSeparator {s : String} (h : isSeparator s) : isPlain s := by
  rw [isSeparator, Bool.and_eq_true] at h
  exact h.2

namespace Dialect

theorem clear_of_isPlain (dialect : Dialect) {s : String} (h : isPlain s) {c : Char}
    (hc : c ∈ s.toList) : dialect.Clear [c] := by
  have hplain := List.all_eq_true.mp h c hc
  simp only [Bool.and_eq_true, bne_iff_ne] at hplain
  obtain ⟨⟨hname, hsingle⟩, hdouble⟩ := hplain
  refine ⟨fun h => hname (Option.some.inj h), fun h => ?_⟩
  cases dialect with
  | mariadb => exact hdouble (Option.some.inj h)
  | sqlite => exact hsingle (Option.some.inj h)

theorem clear_of_isSeparator (dialect : Dialect) {s : String} (h : isSeparator s)
    (rest : List Char) : dialect.Clear (s.toList ++ rest) := by
  cases hchars : s.toList with
  | nil =>
    rw [isSeparator, hchars] at h
    cases h
  | cons c chars =>
    exact dialect.clear_of_isPlain (isPlain_of_isSeparator h) (hchars ▸ List.mem_cons_self)

/-- Before whatever satisfies `Q`, a statement is read into the given tokens, and what follows is
read by itself. -/
def Reads (dialect : Dialect) (Q : List Char → Prop) (sql : String) (tokens : List Token) : Prop :=
  ∀ rest, Q rest → dialect.tokens (sql.toList ++ rest) = tokens ++ dialect.tokens rest

theorem Reads.append {dialect : Dialect} {P Q : List Char → Prop} {sql more : String}
    {tokens tokens' : List Token} (h : dialect.Reads P sql tokens)
    (h' : dialect.Reads Q more tokens') (hP : ∀ rest, Q rest → P (more.toList ++ rest)) :
    dialect.Reads Q (sql ++ more) (tokens ++ tokens') := by
  intro rest hrest
  rw [String.toList_append, List.append_assoc, h _ (hP rest hrest), h' rest hrest,
    List.append_assoc]

theorem reads_plain (dialect : Dialect) {s : String} (h : isPlain s) :
    dialect.Reads (fun _ => True) s (s.toList.map .other) := by
  intro rest _
  have hclear : ∀ c ∈ s.toList, dialect.Clear [c] := fun c hc => dialect.clear_of_isPlain h hc
  revert hclear
  generalize s.toList = chars
  intro hclear
  induction chars with
  | nil => rfl
  | cons c chars ih =>
    rw [List.cons_append, tokens_other (hclear c List.mem_cons_self),
      ih fun d hd => hclear d (List.mem_cons_of_mem _ hd)]
    rfl

/-- Whole statements whose tokens are the same except for the contents of texts. -/
def TokensAlike (dialect : Dialect) (sql : String) (texts : List String) (sql' : String)
    (texts' : List String) : Prop :=
  Alike (dialect.tokens sql.toList) texts (dialect.tokens sql'.toList) texts'

/-- Before whatever satisfies `Q`, two statements are read into sequences that are alike. -/
def ReadAlike (dialect : Dialect) (Q : List Char → Prop) (sql : String) (texts : List String)
    (sql' : String) (texts' : List String) : Prop :=
  ∃ tokens tokens', Alike tokens texts tokens' texts' ∧ dialect.Reads Q sql tokens ∧
    dialect.Reads Q sql' tokens'

/-- Statements that are read into alike sequences, whatever follows. They end outside of names and
texts. -/
abbrev Sealed (dialect : Dialect) := dialect.ReadAlike fun _ => True

/-- Statements that are read into alike sequences if what follows is clear. They may end with a name
or a text. -/
abbrev Pending (dialect : Dialect) := dialect.ReadAlike dialect.Clear

namespace ReadAlike

variable {dialect : Dialect} {Q : List Char → Prop} {sql sql' : String} {texts texts' : List String}

theorem plain (dialect : Dialect) {s : String} (h : isPlain s) : dialect.Sealed s [] s [] :=
  ⟨_, _, Alike.refl _, dialect.reads_plain h, dialect.reads_plain h⟩

theorem pending (h : dialect.Sealed sql texts sql' texts') :
    dialect.Pending sql texts sql' texts' := by
  obtain ⟨tokens, tokens', halike, hread, hread'⟩ := h
  exact ⟨tokens, tokens', halike, fun rest _ => hread rest trivial,
    fun rest _ => hread' rest trivial⟩

theorem append {u u' : String} {vs vs' : List String} (h : dialect.Sealed sql texts sql' texts')
    (h' : dialect.ReadAlike Q u vs u' vs') :
    dialect.ReadAlike Q (sql ++ u) (texts ++ vs) (sql' ++ u') (texts' ++ vs') := by
  obtain ⟨tokens, tokens', halike, hread, hread'⟩ := h
  obtain ⟨more, more', hmore, hreadMore, hreadMore'⟩ := h'
  exact ⟨_, _, halike.append hmore, hread.append hreadMore fun _ _ => trivial,
    hread'.append hreadMore' fun _ _ => trivial⟩

theorem name (dialect : Dialect) {name : String} (h : Quotable name) :
    dialect.Pending (identifier name) [] (identifier name) [] := by
  have hread : dialect.Reads dialect.Clear (identifier name) [.name name] := fun _ hrest =>
    tokens_identifier h hrest
  exact ⟨_, _, Alike.refl _, hread, hread⟩

theorem text (dialect : Dialect) (content content' : String) :
    dialect.Pending (dialect.quoteText content) [content] (dialect.quoteText content')
      [content'] := by
  have hread : ∀ content, dialect.Reads dialect.Clear (dialect.quoteText content) [.text content] :=
    fun content _ hrest => tokens_quoteText content hrest
  exact ⟨_, _, .text content content' .nil, hread content, hread content'⟩

theorem append_name (h : dialect.Sealed sql texts sql' texts') {name : String}
    (hname : Quotable name) :
    dialect.Pending (sql ++ identifier name) texts (sql' ++ identifier name) texts' := by
  simpa only [List.append_nil] using h.append (ReadAlike.name dialect hname)

theorem append_plain (h : dialect.Sealed sql texts sql' texts') {s : String} (hs : isPlain s) :
    dialect.Sealed (sql ++ s) texts (sql' ++ s) texts' := by
  simpa only [List.append_nil] using h.append (plain dialect hs)

/-- A separator ends a name or a text before it. -/
theorem append_separator (h : dialect.Pending sql texts sql' texts') {s : String}
    (hs : isSeparator s) : dialect.Sealed (sql ++ s) texts (sql' ++ s) texts' := by
  obtain ⟨tokens, tokens', halike, hread, hread'⟩ := h
  have hclear : ∀ rest, True → dialect.Clear (s.toList ++ rest) := fun rest _ =>
    dialect.clear_of_isSeparator hs rest
  have hplain := dialect.reads_plain (isPlain_of_isSeparator hs)
  have halike' := halike.append (Alike.refl (s.toList.map .other))
  rw [List.append_nil, List.append_nil] at halike'
  exact ⟨_, _, halike', hread.append hplain hclear, hread'.append hplain hclear⟩

/-- A list whose members are alike one by one, with commas between them. -/
theorem intercalate {α β : Type} {R : α → β → Prop} {write : α → String} {write' : β → String}
    {textsOf : α → List String} {textsOf' : β → List String} {xs : List α} {ys : List β}
    (hxs : List.Forall₂ R xs ys)
    (h : ∀ x y, R x y → dialect.Pending (write x) (textsOf x) (write' y) (textsOf' y)) :
    dialect.Pending (", ".intercalate (xs.map write)) (xs.flatMap textsOf)
      (", ".intercalate (ys.map write')) (ys.flatMap textsOf') := by
  induction hxs with
  | nil => exact (plain dialect rfl).pending
  | @cons x y xs ys hxy hrest ih =>
    cases hrest with
    | nil => simpa using h x y hxy
    | cons hxy' hrest' =>
      have hfirst := (h x y hxy).append_separator (s := ", ") rfl
      simpa only [List.map_cons, String.intercalate_cons_cons, List.flatMap_cons] using
        hfirst.append ih

theorem names (dialect : Dialect) {names : List String}
    (h : ∀ name ∈ names, Quotable name) :
    dialect.Pending (", ".intercalate (names.map identifier)) []
      (", ".intercalate (names.map identifier)) [] := by
  have hnames : List.Forall₂ (fun x y => x = y ∧ Quotable x) names names :=
    List.forall₂_same.mpr fun name hname => ⟨rfl, h name hname⟩
  have hread : dialect.Pending (", ".intercalate (names.map identifier))
      (names.flatMap fun _ => []) (", ".intercalate (names.map identifier))
      (names.flatMap fun _ => []) := by
    refine intercalate hnames ?_
    rintro x _ ⟨rfl, hx⟩
    exact ReadAlike.name dialect hx
  have hempty : (names.flatMap fun _ => ([] : List String)) = [] :=
    List.flatMap_eq_nil_iff.mpr fun _ _ => rfl
  rwa [hempty] at hread

/-- The tokens of two whole statements. A clear end is the same in both. -/
theorem alike_append (h : dialect.Pending sql texts sql' texts') {tail : String}
    (htail : dialect.Clear tail.toList) :
    dialect.TokensAlike (sql ++ tail) texts (sql' ++ tail) texts' := by
  obtain ⟨tokens, tokens', halike, hread, hread'⟩ := h
  have halike' := halike.append (Alike.refl (dialect.tokens tail.toList))
  rw [List.append_nil, List.append_nil] at halike'
  rw [TokensAlike, String.toList_append, String.toList_append, hread _ htail, hread' _ htail]
  exact halike'

theorem alike (h : dialect.Pending sql texts sql' texts') :
    dialect.TokensAlike sql texts sql' texts' := by
  have hclear : dialect.Clear "".toList := dialect.clear_nil
  have halike := h.alike_append hclear
  rwa [String.append_empty, String.append_empty] at halike

end ReadAlike

end Dialect

end RecordMapper
