import RecordMapper.Text.Quoted

/-!
# Texts between quotes in longer texts

* `Text.QuoteRule.Spells`: the ways to spell a text between quotes. A writer takes one of them.
* `Text.QuoteRule.Opens`: a longer text starts with a text between quotes.
* `Text.QuoteRule.read_eq_some_iff`: a reader finds just that, and leaves what follows it.
* `Text.QuoteRule.Opens.unique`: there is only one text with which a longer one starts.
* `Text.QuoteRule.read_write_iff`: reading gives back what was written just if what follows is no
  quote.
-/

namespace RecordMapper.Text.QuoteRule

variable {rule : QuoteRule} {input text spelling content rest : List Char}

/-! ## Spellings -/

/-- A spelling of a text between quotes: a quote is written twice, any character may stand after the
escape character, and other characters may stand as they are. -/
inductive Spells (rule : QuoteRule) : List Char → List Char → Prop
  | nil : Spells rule [] []
  | plain {c : Char} {spelling content : List Char} : c ≠ rule.quote → rule.escape ≠ some c →
      Spells rule spelling content → Spells rule (c :: spelling) (c :: content)
  | doubled {spelling content : List Char} : Spells rule spelling content →
      Spells rule (rule.quote :: rule.quote :: spelling) (rule.quote :: content)
  | escaped {e c : Char} {spelling content : List Char} : rule.escape = some e →
      Spells rule spelling content → Spells rule (e :: c :: spelling) (c :: content)

/-- What is written is one of the spellings. -/
theorem spells_encode (rule : QuoteRule) (text : List Char) :
    rule.Spells (rule.encode text) text := by
  induction text with
  | nil => exact .nil
  | cons c text ih =>
    rw [encode]
    split
    · next hdoubled =>
      rw [doubles, Bool.or_eq_true, beq_iff_eq, beq_iff_eq] at hdoubled
      rcases hdoubled with rfl | hescape
      · exact .doubled ih
      · exact .escaped hescape ih
    · next hplain =>
      rw [doubles, Bool.or_eq_true, beq_iff_eq, beq_iff_eq, not_or] at hplain
      exact .plain hplain.1 hplain.2 ih

/-- Text without characters to double stands between quotes as it is. -/
theorem encode_of_not_doubled (rule : QuoteRule) {text : List Char}
    (h : ∀ c ∈ text, rule.doubles c = false) : rule.encode text = text := by
  induction text with
  | nil => rfl
  | cons c rest ih =>
    rw [encode, h c List.mem_cons_self, ih fun d hd => h d (List.mem_cons_of_mem _ hd)]
    rfl

/-! ## Reading up to the closing quote -/

/-- A reader takes in a spelling, whatever follows it, and then goes on with that. -/
theorem Spells.decode_append (h : rule.Spells spelling content) (input : List Char) :
    rule.decode (spelling ++ input) =
      (rule.decode input).map fun r => (content ++ r.1, r.2) := by
  induction h with
  | nil => simp
  | @plain c spelling content hquote hescape _ ih =>
    -- the reader looks at the character after this one too, and there may be none
    rw [List.cons_append]
    cases hinput : spelling ++ input with
    | nil =>
      rw [hinput, decode] at ih
      rw [decode, if_neg hquote, Option.map_eq_none_iff.mp ih.symm]
      rfl
    | cons d tail =>
      rw [hinput] at ih
      rw [decode, if_neg hescape, if_neg hquote, ih, Option.map_map]
      rfl
  | @doubled spelling content _ ih =>
    rw [List.cons_append, List.cons_append, decode, if_pos rfl, if_pos rfl, ite_self, ih,
      Option.map_map]
    rfl
  | @escaped e c spelling content hescape _ ih =>
    rw [List.cons_append, List.cons_append, decode, if_pos hescape, ih, Option.map_map]
    rfl

/-- A quote that no other one follows ends the text. -/
theorem decode_quote (h : rule.escape ≠ some rule.quote) (hrest : rest.head? ≠ some rule.quote) :
    rule.decode (rule.quote :: rest) = some ([], rest) := by
  cases rest with
  | nil => rw [decode, if_pos rfl]
  | cons d rest =>
    have hd : d ≠ rule.quote := fun hd => hrest (congrArg some hd)
    rw [decode, if_neg h, if_pos rfl, if_neg hd]

/-- Reading a character more changes the content that is read and not what follows it. -/
theorem exists_of_map_cons {read? : Option (List Char × List Char)} {c : Char}
    (h : read?.map (fun r => (c :: r.1, r.2)) = some (content, rest)) :
    ∃ content', content = c :: content' ∧ read? = some (content', rest) := by
  obtain ⟨⟨content', rest'⟩, hread, h⟩ := Option.map_eq_some_iff.mp h
  cases h
  exact ⟨content', rfl, hread⟩

/-- What a reader takes in is a spelling, and it stops at a quote that no other one follows. -/
theorem exists_spelling_of_decode (h : rule.decode input = some (content, rest)) :
    ∃ spelling, rule.Spells spelling content ∧ input = spelling ++ rule.quote :: rest ∧
      rest.head? ≠ some rule.quote := by
  fun_induction rule.decode input generalizing content with
  | case1 => cases h
  | case2 =>
    cases h
    exact ⟨[], .nil, rfl, nofun⟩
  | case3 => cases h
  | case4 c d tail hescape ih =>
    obtain ⟨content, rfl, hread⟩ := exists_of_map_cons h
    obtain ⟨spelling, hspells, rfl, hrest⟩ := ih hread
    exact ⟨c :: d :: spelling, .escaped hescape hspells, rfl, hrest⟩
  | case5 tail hescape ih =>
    obtain ⟨content, rfl, hread⟩ := exists_of_map_cons h
    obtain ⟨spelling, hspells, rfl, hrest⟩ := ih hread
    exact ⟨rule.quote :: rule.quote :: spelling, .doubled hspells, rfl, hrest⟩
  | case6 d tail hd =>
    cases h
    exact ⟨[], .nil, rfl, fun hhead => hd (Option.some.inj hhead)⟩
  | case7 c d tail hescape hquote ih =>
    obtain ⟨content, rfl, hread⟩ := exists_of_map_cons h
    obtain ⟨spelling, hspells, hinput, hrest⟩ := ih hread
    refine ⟨c :: spelling, .plain hquote hescape hspells, ?_, hrest⟩
    rw [hinput, List.cons_append]

/-! ## Reading from the opening quote on -/

/-- A longer text starts with a text between quotes: `literal` with its quotes, which spells
`content`. What follows it starts with no quote. -/
structure Opens (rule : QuoteRule) (input literal content rest : List Char) : Prop where
  spelled : ∃ spelling, rule.Spells spelling content ∧
    literal = rule.quote :: spelling ++ [rule.quote]
  input_eq : input = literal ++ rest
  ends : rest.head? ≠ some rule.quote

theorem opens_write (rule : QuoteRule) (text : List Char) (hrest : rest.head? ≠ some rule.quote) :
    rule.Opens (rule.write text ++ rest) (rule.write text) text rest where
  spelled := ⟨rule.encode text, rule.spells_encode text, rfl⟩
  input_eq := rfl
  ends := hrest

/-- A reader finds just the text between quotes with which a longer one starts, and leaves what
follows it. -/
theorem read_eq_some_iff (h : rule.escape ≠ some rule.quote) :
    rule.read input = some (content, rest) ↔
      ∃ literal, rule.Opens input literal content rest := by
  constructor
  · intro hread
    cases input with
    | nil => cases hread
    | cons c tail =>
      rw [read] at hread
      split at hread
      · next hquote =>
        subst hquote
        obtain ⟨spelling, hspells, rfl, hrest⟩ := exists_spelling_of_decode hread
        refine ⟨rule.quote :: spelling ++ [rule.quote], ⟨spelling, hspells, rfl⟩, ?_, hrest⟩
        simp
      · cases hread
  · rintro ⟨_, ⟨spelling, hspells, rfl⟩, rfl, hrest⟩
    rw [List.cons_append, List.cons_append, read, if_pos rfl, List.append_assoc,
      hspells.decode_append, List.singleton_append, decode_quote h hrest]
    simp

/-- There is only one text between quotes with which a longer one starts. -/
theorem Opens.unique (h : rule.escape ≠ some rule.quote)
    {literal literal' content' rest' : List Char} (hopens : rule.Opens input literal content rest)
    (hopens' : rule.Opens input literal' content' rest') :
    literal = literal' ∧ content = content' ∧ rest = rest' := by
  have hread := (read_eq_some_iff h).mpr ⟨literal, hopens⟩
  have hread' := (read_eq_some_iff h).mpr ⟨literal', hopens'⟩
  obtain ⟨rfl, rfl⟩ := Prod.mk.inj (Option.some.inj (hread.symm.trans hread'))
  have hliteral := hopens.input_eq.symm.trans hopens'.input_eq
  exact ⟨List.append_cancel_right hliteral, rfl, rfl⟩

/-- Reading gives back what was written just if what follows is no quote. -/
theorem read_write_iff (h : rule.escape ≠ some rule.quote) (text rest : List Char) :
    rule.read (rule.write text ++ rest) = some (text, rest) ↔ rest.head? ≠ some rule.quote := by
  rw [read_eq_some_iff h]
  constructor
  · rintro ⟨literal, hopens⟩
    exact hopens.ends
  · intro hrest
    exact ⟨rule.write text, rule.opens_write text hrest⟩

theorem length_lt_of_read (rule : QuoteRule) (h : rule.read text = some (content, rest)) :
    rest.length < text.length := by
  cases text with
  | nil => cases h
  | cons c tail =>
    rw [read] at h
    split at h
    · obtain ⟨spelling, -, rfl, -⟩ := exists_spelling_of_decode h
      simp only [List.length_cons, List.length_append]
      omega
    · cases h

theorem read_of_ne (rule : QuoteRule) {c : Char} (h : c ≠ rule.quote) (rest : List Char) :
    rule.read (c :: rest) = none := by
  rw [read, if_neg h]

end RecordMapper.Text.QuoteRule
