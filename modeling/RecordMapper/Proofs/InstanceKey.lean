import Mathlib.Data.List.Basic
import RecordMapper.Proofs.Record
import RecordMapper.Proofs.Text
import RecordMapper.Proofs.Token

/-!
# The form of instance keys

* `InstanceKey.HasForm`: 36 characters, with hyphens at four positions and digits at the others.
* `InstanceKey.isWellFormed_iff_hasForm`: the texts of this form are the keys that are accepted.
* `InstanceKey.passesByBytes_iff_hasForm`: it makes no difference whether a text is measured in
  characters or in bytes.
* `InstanceKey.hexDigits_eq_padded`, `InstanceKey.cut?_eq_ofNumber`: the key of a number is cut from
  its digits, and there are enough of them for every cut.
* `InstanceKey.hexNumber?_ofNumber`: the number is read back from its key.
* `InstanceKey.usable_and_faithful`: all of this together.
-/

namespace RecordMapper.InstanceKey

/-! ## Digits -/

/-- A hexadecimal digit of lower case. -/
def IsLowerDigit (c : Char) : Prop := ('0' ≤ c ∧ c ≤ '9') ∨ ('a' ≤ c ∧ c ≤ 'f')

/-- A hexadecimal digit of either case. -/
def IsHexDigit (c : Char) : Prop := IsLowerDigit c ∨ ('A' ≤ c ∧ c ≤ 'F')

theorem isSome_hexValue?_iff (c : Char) : (Text.hexValue? c).isSome ↔ IsHexDigit c := by
  have hdigit : c.isDigit = true ↔ '0' ≤ c ∧ c ≤ '9' := by
    simp only [Char.isDigit, Bool.and_eq_true, decide_eq_true_eq, ge_iff_le]
    rfl
  unfold Text.hexValue? IsHexDigit IsLowerDigit
  rw [← hdigit]
  split
  · simp [*]
  · split
    · simp [*]
    · split <;> simp [*]

theorem IsHexDigit.toNat_lt {c : Char} (h : IsHexDigit c) : c.toNat < 0x80 := by
  have hle : ∀ d : Char, d.toNat < 0x80 → c ≤ d → c.toNat < 0x80 := fun d hd hc =>
    Nat.lt_of_le_of_lt hc hd
  rcases h with (⟨-, h⟩ | ⟨-, h⟩) | ⟨-, h⟩
  · exact hle '9' (by decide) h
  · exact hle 'f' (by decide) h
  · exact hle 'F' (by decide) h

theorem isLowerDigit_hexDigit (n : Nat) : IsLowerDigit (Text.hexDigit n) := by
  have h : ∀ d : Fin 16, ('0' ≤ Nat.digitChar d.val ∧ Nat.digitChar d.val ≤ '9') ∨
      ('a' ≤ Nat.digitChar d.val ∧ Nat.digitChar d.val ≤ 'f') := by decide
  exact h ⟨n % 16, Nat.mod_lt n (by decide)⟩

theorem isLowerDigit_of_mem_hexDigits {width number : Nat} {c : Char}
    (h : c ∈ hexDigits width number) : IsLowerDigit c := by
  induction width generalizing number with
  | zero => cases h
  | succ width ih =>
    rcases List.mem_append.mp h with hmore | hlast
    · exact ih hmore
    · rw [List.mem_singleton.mp hlast]
      exact isLowerDigit_hexDigit number

/-! ## Positions -/

/-- The positions of the hyphens. -/
def hyphens : List Nat := [8, 13, 18, 23]

/-- Whether a character may stand at a position, given which characters are digits. -/
def Stands (digit : Char → Prop) (position : Nat) (c : Char) : Prop :=
  if position ∈ hyphens then c = '-' else digit c

/-- A text of 36 characters, each of one byte, with a hyphen at each of four positions and a digit
at each of the others. -/
structure HasForm (digit : Char → Prop) (text : String) : Prop where
  length : text.length = 36
  oneByte : ∀ c ∈ text.toList, c.toNat < 0x80
  stands : ∀ position (h : position < text.toList.length),
    Stands digit position text.toList[position]

theorem fits_iff (layout : List Bool) (text : List Char) :
    fits layout text = true ↔ text.length = layout.length ∧
      ∀ position (h : position < text.length) (h' : position < layout.length),
        if layout[position] then IsHexDigit text[position] else text[position] = '-' := by
  induction layout generalizing text with
  | nil => cases text <;> simp [fits]
  | cons isDigit layout ih =>
    cases text with
    | nil => simp [fits]
    | cons c text =>
      have hfirst : (if isDigit then (Text.hexValue? c).isSome else c == '-') = true ↔
          if isDigit then IsHexDigit c else c = '-' := by
        cases isDigit
        · simp
        · simpa using isSome_hexValue?_iff c
      rw [fits, Bool.and_eq_true, hfirst, ih]
      constructor
      · rintro ⟨hc, hlength, hrest⟩
        refine ⟨by simp [hlength], ?_⟩
        intro position h h'
        cases position with
        | zero => exact hc
        | succ position => exact hrest position (by simpa using h) (by simpa using h')
      · rintro ⟨hlength, hall⟩
        refine ⟨hall 0 (by simp) (by simp), by simpa using hlength, ?_⟩
        intro position h h'
        exact hall (position + 1) (by simpa using h) (by simpa using h')

/-- A layout asks for a digit except at the four positions. -/
theorem layout_iff (position : Fin layout.length) :
    layout[position.val] = true ↔ position.val ∉ hyphens := by
  revert position
  decide

theorem Stands.toNat_lt {digit : Char → Prop} (hdigit : ∀ c, digit c → IsHexDigit c)
    {position : Nat} {c : Char} (h : Stands digit position c) : c.toNat < 0x80 := by
  unfold Stands at h
  split at h
  · subst h
    decide
  · exact (hdigit c h).toNat_lt

/-- The keys that are accepted are the texts of the form, with digits of either case. -/
theorem isWellFormed_iff_hasForm (text : String) :
    isWellFormed text = true ↔ HasForm IsHexDigit text := by
  have hplace : ∀ position (h : position < layout.length) (c : Char),
      (if layout[position] then IsHexDigit c else c = '-') ↔ Stands IsHexDigit position c := by
    intro position h c
    have hlayout := layout_iff ⟨position, h⟩
    unfold Stands
    by_cases hhyphen : position ∈ hyphens
    · rw [if_pos hhyphen, if_neg fun htrue => hlayout.mp htrue hhyphen]
    · rw [if_neg hhyphen, if_pos (hlayout.mpr hhyphen)]
  rw [isWellFormed, fits_iff]
  constructor
  · rintro ⟨hlength, hall⟩
    have hstands : ∀ position (h : position < text.toList.length),
        Stands IsHexDigit position text.toList[position] := by
      intro position h
      have h' : position < layout.length := hlength ▸ h
      exact (hplace position h' _).mp (hall position h h')
    refine ⟨String.length_toList.symm.trans hlength, ?_, hstands⟩
    intro c hc
    obtain ⟨position, h, rfl⟩ := List.getElem_of_mem hc
    exact (hstands position h).toNat_lt fun _ => id
  · rintro ⟨hlength, -, hstands⟩
    refine ⟨String.length_toList.trans hlength, ?_⟩
    intro position h h'
    exact (hplace position h' _).mpr (hstands position h)

/-! ## Positions in bytes -/

/-- The characters of a text, each with the number of bytes before it. -/
def offsets (start : Nat) : List Char → List (Nat × Char)
  | [] => []
  | c :: rest => (start, c) :: offsets (start + c.utf8Size) rest

/-- Whether a text has as many bytes as a key, and a character that may stand there wherever one
begins. -/
def PassesByBytes (text : String) : Prop :=
  text.utf8ByteSize = 36 ∧ ∀ item ∈ offsets 0 text.toList, Stands IsHexDigit item.1 item.2

theorem map_snd_offsets (start : Nat) (text : List Char) :
    (offsets start text).map Prod.snd = text := by
  induction text generalizing start with
  | nil => rfl
  | cons c rest ih => rw [offsets, List.map_cons, ih]

/-- Where each character has one byte, positions in bytes are positions in characters. -/
theorem offsets_of_oneByte {text : List Char} (h : ∀ c ∈ text, c.toNat < 0x80) (start : Nat) :
    offsets start text = (text.zipIdx start).map Prod.swap := by
  induction text generalizing start with
  | nil => rfl
  | cons c rest ih =>
    obtain ⟨hc, hrest⟩ := List.forall_mem_cons.mp h
    rw [offsets, Text.utf8Size_eq_one hc, ih hrest, List.zipIdx_cons, List.map_cons]
    rfl

/-- A text that is measured in bytes passes exactly if it is of the form: a character of several
bytes is neither a hyphen nor a digit, wherever it stands. -/
theorem passesByBytes_iff_hasForm (text : String) :
    PassesByBytes text ↔ HasForm IsHexDigit text := by
  have hplaces : (∀ c ∈ text.toList, c.toNat < 0x80) →
      ((∀ item ∈ offsets 0 text.toList, Stands IsHexDigit item.1 item.2) ↔
        ∀ position (h : position < text.toList.length),
          Stands IsHexDigit position text.toList[position]) := by
    intro hascii
    rw [offsets_of_oneByte hascii, List.forall_mem_map]
    constructor
    · intro hall position h
      exact hall (text.toList[position], position) (List.mem_zipIdx_iff_getElem?.mpr (by simp [h]))
    · intro hall item hitem
      obtain ⟨h, hc⟩ := List.getElem?_eq_some_iff.mp (List.mem_zipIdx_iff_getElem?.mp hitem)
      have hstands := hall item.2 h
      rwa [hc] at hstands
  have hsize : (∀ c ∈ text.toList, c.toNat < 0x80) → text.utf8ByteSize = text.length := by
    intro hascii
    rw [← String.utf8Len_toList, Text.utf8Len_of_oneByte hascii, String.length_toList]
  constructor
  · rintro ⟨hbytes, hall⟩
    have hascii : ∀ c ∈ text.toList, c.toNat < 0x80 := by
      intro c hc
      rw [← map_snd_offsets 0 text.toList] at hc
      obtain ⟨item, hitem, rfl⟩ := List.mem_map.mp hc
      exact (hall item hitem).toNat_lt fun _ => id
    exact ⟨(hsize hascii).symm.trans hbytes, hascii, (hplaces hascii).mp hall⟩
  · rintro ⟨hlength, hascii, hall⟩
    exact ⟨(hsize hascii).trans hlength, (hplaces hascii).mpr hall⟩

/-- A text of as many bytes as a key that ends in a character of two bytes. -/
example : "01234567-89ab-cdef-0123-456789abcdé".utf8ByteSize = 36 ∧
    isWellFormed "01234567-89ab-cdef-0123-456789abcdé" = false := by decide

/-! ## Keys of numbers -/

/-- The digits of a number, with zeros before them up to a width at least. -/
def padded (width number : Nat) : List Char :=
  (Nat.toDigits 16 number).leftpad width '0'

/-- The part of a text between two positions, unless the text ends before the second one. -/
def slice? (text : List Char) (group : Nat × Nat) : Option (List Char) :=
  if group.1 ≤ group.2 ∧ group.2 ≤ text.length then some ((text.take group.2).drop group.1)
  else none

/-- The key that is cut from the digits of a number, unless one of the cuts misses. -/
def cut? (number : BitVec 128) : Option String := do
  let groups ← [(0, 8), (8, 12), (12, 16), (16, 20), (20, 32)].mapM
    (slice? (padded 32 number.toNat))
  return String.ofList (['-'].intercalate groups)

theorem hexDigits_zero (width : Nat) : hexDigits width 0 = List.replicate width '0' := by
  induction width with
  | zero => rfl
  | succ width ih =>
    rw [hexDigits, Nat.zero_div, ih, List.replicate_succ']
    rfl

/-- The last digits of a number are all of them, with zeros before them, if there is room. -/
theorem hexDigits_eq_padded (width : Nat) {number : Nat} (h : number < 16 ^ (width + 1)) :
    hexDigits (width + 1) number = padded (width + 1) number := by
  induction width generalizing number with
  | zero =>
    have hsmall : number < 16 := h
    rw [padded, Nat.toDigits_of_lt_base hsmall, hexDigits, hexDigits, Text.hexDigit,
      Nat.mod_eq_of_lt hsmall]
    rfl
  | succ width ih =>
    by_cases hsmall : number < 16
    · rw [padded, Nat.toDigits_of_lt_base hsmall, hexDigits, Nat.div_eq_of_lt hsmall,
        hexDigits_zero, Text.hexDigit, Nat.mod_eq_of_lt hsmall, List.leftpad, List.length_singleton,
        Nat.add_sub_cancel]
    · have hmore : number / 16 < 16 ^ (width + 1) := by
        rw [Nat.div_lt_iff_lt_mul (by decide), ← Nat.pow_succ]
        exact h
      have hdigits : Nat.toDigits 16 number =
          Nat.toDigits 16 (number / 16) ++ [Text.hexDigit number] := by
        have hlast : Nat.toDigits 16 (number / 16) ++ Nat.toDigits 16 (number % 16) =
            Nat.toDigits 16 (16 * (number / 16) + number % 16) :=
          Nat.toDigits_append_toDigits (by decide) (by omega) (by omega)
        rw [Nat.toDigits_of_lt_base (Nat.mod_lt number (by decide)), Nat.div_add_mod] at hlast
        exact hlast.symm
      rw [hexDigits, ih hmore, padded, padded, hdigits, List.leftpad, List.leftpad,
        List.length_append, List.length_singleton, Nat.add_sub_add_right, List.append_assoc]

theorem fill_group {width : Nat} {digits : List Char} (h : width ≤ digits.length)
    (rest : List Bool) :
    fill (List.replicate width true ++ rest) digits =
      digits.take width ++ fill rest (digits.drop width) := by
  induction width generalizing digits with
  | zero => simp
  | succ width ih =>
    cases digits with
    | nil => simp at h
    | cons c digits =>
      rw [List.replicate_succ, List.cons_append, fill, ih (by simpa using h), List.take_succ_cons,
        List.drop_succ_cons, List.cons_append]

theorem fill_hyphen (rest : List Bool) (digits : List Char) :
    fill (false :: rest) digits = '-' :: fill rest digits := by
  cases digits <;> rfl

/-- A layout that is filled is the groups of the digits with hyphens between them. -/
theorem fill_layout {digits : List Char} (h : digits.length = 32) :
    (['-'].intercalate ·) <$>
        [(0, 8), (8, 12), (12, 16), (16, 20), (20, 32)].mapM (slice? digits) =
      some (fill layout digits) := by
  have hlayout : layout = List.replicate 8 true ++ false :: (List.replicate 4 true ++
      false :: (List.replicate 4 true ++ false :: (List.replicate 4 true ++
        false :: (List.replicate 12 true ++ [])))) := by decide
  rw [hlayout, fill_group (by omega), fill_hyphen, fill_group (by simp; omega), fill_hyphen,
    fill_group (by simp; omega), fill_hyphen, fill_group (by simp; omega), fill_hyphen,
    fill_group (by simp; omega)]
  simp [slice?, h, List.intercalate, List.drop_take, fill]

/-- The key of a number is cut from its digits, of which there are enough for every cut. -/
theorem cut?_eq_ofNumber (number : BitVec 128) : cut? number = some (ofNumber number) := by
  have hdigits : hexDigits 32 number.toNat = padded 32 number.toNat :=
    hexDigits_eq_padded 31 number.isLt
  have hcut := fill_layout (length_hexDigits 32 number.toNat)
  rw [hdigits] at hcut
  obtain ⟨groups, hgroups, hkey⟩ := Option.map_eq_some_iff.mp hcut
  rw [cut?, hgroups, ofNumber, hdigits, ← hkey]
  rfl

theorem mem_fill {layout : List Bool} {digits : List Char} {c : Char}
    (h : c ∈ fill layout digits) : c = '-' ∨ c ∈ digits := by
  induction layout generalizing digits with
  | nil => simp [fill] at h
  | cons isDigit layout ih =>
    cases isDigit with
    | false =>
      rw [fill_hyphen] at h
      rcases List.mem_cons.mp h with rfl | hrest
      · exact .inl rfl
      · exact ih hrest
    | true =>
      cases digits with
      | nil => simp [fill] at h
      | cons d digits =>
        rcases List.mem_cons.mp h with rfl | hrest
        · exact .inr List.mem_cons_self
        · exact (ih hrest).imp_right (List.mem_cons_of_mem d)

theorem IsLowerDigit.ne_hyphen {c : Char} (h : IsLowerDigit c) : c ≠ '-' := by
  rintro rfl
  rcases h with ⟨h, -⟩ | ⟨h, -⟩ <;> exact absurd h (by decide)

theorem mem_ofNumber {number : BitVec 128} {c : Char} (h : c ∈ (ofNumber number).toList) :
    c = '-' ∨ IsLowerDigit c := by
  rw [ofNumber, String.toList_ofList] at h
  exact (mem_fill h).imp_right isLowerDigit_of_mem_hexDigits

/-- The key of a number has digits of lower case only. -/
theorem hasForm_ofNumber (number : BitVec 128) : HasForm IsLowerDigit (ofNumber number) := by
  obtain ⟨hlength, hascii, hstands⟩ :=
    (isWellFormed_iff_hasForm _).mp (isWellFormed_ofNumber number)
  refine ⟨hlength, hascii, ?_⟩
  intro position h
  have hplace := hstands position h
  unfold Stands at hplace ⊢
  split
  · next hhyphen => rwa [if_pos hhyphen] at hplace
  · next hdigit =>
    rw [if_neg hdigit] at hplace
    rcases mem_ofNumber (List.getElem_mem h) with heq | hlower
    · rw [heq] at hplace
      exact absurd hplace (by unfold IsHexDigit IsLowerDigit; decide)
    · exact hlower

/-! ## Reading and writing keys -/

theorem hexNumber?_hexDigits (width number : Nat) :
    Text.hexNumber? (hexDigits width number) = some (number % 16 ^ width) := by
  induction width generalizing number with
  | zero =>
    rw [Nat.pow_zero, Nat.mod_one]
    rfl
  | succ width ih =>
    have hmore := ih (number / 16)
    rw [Text.hexNumber?] at hmore ⊢
    rw [hexDigits, List.foldlM_append, hmore]
    simp only [Option.bind_eq_bind, Option.bind_some, List.foldlM_cons, List.foldlM_nil,
      Text.hexValue?_hexDigit, Option.map_eq_map, Option.map_some]
    rw [Nat.pow_succ', Nat.mod_mul, Nat.add_comm]
    rfl

/-- Where there is a place for each digit, the digits are what is left without the hyphens. -/
theorem filter_fill {layout : List Bool} {digits : List Char}
    (hlength : digits.length = layout.count true) (hdigits : ∀ c ∈ digits, c ≠ '-') :
    (fill layout digits).filter (· ≠ '-') = digits := by
  induction layout generalizing digits with
  | nil =>
    rw [List.length_eq_zero_iff.mp hlength]
    rfl
  | cons isDigit layout ih =>
    cases isDigit with
    | false =>
      rw [fill_hyphen, List.filter_cons_of_neg (by simp)]
      exact ih (by simpa using hlength) hdigits
    | true =>
      cases digits with
      | nil => simp at hlength
      | cons c digits =>
        obtain ⟨hc, hrest⟩ := List.forall_mem_cons.mp hdigits
        rw [fill, List.filter_cons_of_pos (by simpa using hc), ih (by simpa using hlength) hrest]

/-- The number of a key is that of its digits. -/
theorem hexNumber?_ofNumber (number : BitVec 128) :
    Text.hexNumber? ((ofNumber number).toList.filter (· ≠ '-')) = some number.toNat := by
  have hcount : layout.count true = 32 := by decide
  have hdigits : ∀ c ∈ hexDigits 32 number.toNat, c ≠ '-' := fun _ hc =>
    (isLowerDigit_of_mem_hexDigits hc).ne_hyphen
  have hsmall : number.toNat < 16 ^ 32 := number.isLt
  rw [ofNumber, String.toList_ofList, filter_fill (by rw [length_hexDigits, hcount]) hdigits,
    hexNumber?_hexDigits, Nat.mod_eq_of_lt hsmall]

theorem ofNumber_injective : Function.Injective ofNumber := by
  intro number number' h
  have hread := hexNumber?_ofNumber number
  rw [h, hexNumber?_ofNumber] at hread
  exact (BitVec.eq_of_toNat_eq (Option.some.inj hread)).symm

/-- No character of a key is written twice, in either dialect. -/
theorem quoteText_ofNumber (dialect : Dialect) (number : BitVec 128) :
    (dialect.quoteText (ofNumber number)).toList =
      dialect.quoteRule.quote :: (ofNumber number).toList ++ [dialect.quoteRule.quote] := by
  have hsingle : ∀ c ∈ (ofNumber number).toList, dialect.quoteRule.doubles c = false := by
    intro c hc
    have hother : ∀ d : Char, d ≠ '-' → ¬ IsLowerDigit d → c ≠ d := by
      rintro _ hhyphen hdigit rfl
      exact (mem_ofNumber hc).elim hhyphen hdigit
    have hdouble : c ≠ '"' := hother _ (by decide) (by unfold IsLowerDigit; decide)
    have hsimple : c ≠ '\'' := hother _ (by decide) (by unfold IsLowerDigit; decide)
    have hbackslash : c ≠ '\\' := hother _ (by decide) (by unfold IsLowerDigit; decide)
    cases dialect
    · simp [Text.QuoteRule.doubles, Dialect.quoteRule, hdouble, hbackslash.symm]
    · simp [Text.QuoteRule.doubles, Dialect.quoteRule, hsimple]
  rw [Dialect.quoteText, String.toList_ofList, Text.QuoteRule.write,
    Text.QuoteRule.encode_of_not_doubled _ hsingle]

/-- What is asked of the key of a number. -/
structure Faithful (number : BitVec 128) : Prop where
  /-- No cut misses the digits. -/
  cut : cut? number = some (ofNumber number)
  form : HasForm IsLowerDigit (ofNumber number)
  wellFormed : isWellFormed (ofNumber number) = true
  accepted : ∀ record : Record, record.setKey (ofNumber number) =
    .ok (record.withKey (.present (ofNumber number)))
  readBack : Text.hexNumber? ((ofNumber number).toList.filter (· ≠ '-')) = some number.toNat
  mariadb : Dialect.mariadb.quoteText (ofNumber number) = "\"" ++ ofNumber number ++ "\""
  sqlite : Dialect.sqlite.quoteText (ofNumber number) = "'" ++ ofNumber number ++ "'"

/-- The key of every number is cut from its digits, has the form of a key, is accepted by every
record, gives the number back, so that distinct numbers have distinct keys, and is written between
quotes as it is. What is accepted is exactly what has the form of a key, whether it is measured in
characters or in bytes. -/
theorem usable_and_faithful :
    (∀ number, Faithful number) ∧ Function.Injective ofNumber ∧
      ∀ text, (isWellFormed text = true ↔ HasForm IsHexDigit text) ∧
        (isWellFormed text = true ↔ PassesByBytes text) := by
  refine ⟨fun number => ?_, ofNumber_injective, fun text => ?_⟩
  · have hform := isWellFormed_ofNumber number
    exact {
      cut := cut?_eq_ofNumber number
      form := hasForm_ofNumber number
      wellFormed := hform
      accepted := fun record => Record.setKey_eq_ok.mpr ⟨hform, rfl⟩
      readBack := hexNumber?_ofNumber number
      mariadb := by
        rw [← String.toList_inj, quoteText_ofNumber]
        simp [Dialect.quoteRule]
      sqlite := by
        rw [← String.toList_inj, quoteText_ofNumber]
        simp [Dialect.quoteRule] }
  · have hform := isWellFormed_iff_hasForm text
    exact ⟨hform, hform.trans (passesByBytes_iff_hasForm text).symm⟩

end RecordMapper.InstanceKey
