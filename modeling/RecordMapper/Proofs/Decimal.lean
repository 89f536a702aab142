import RecordMapper.Decimal
import RecordMapper.Proofs.Runs

/-!
# Digits of decimal texts

* `Decimal.isDigit_of_mem_ofNat`, `Decimal.mem_ofInt`: the characters of a decimal text.
* `Decimal.extend_eq_ok`, `Decimal.readDigits_eq_ok`: which digits are read as which numbers.
* `Decimal.WrongAt`, `Decimal.Stops`, `Decimal.extend_eq_error`: where digits go wrong first.
* `Decimal.Numeral`, `Decimal.FirstFault`: texts that stand for a number, and the first thing that
  is wrong with a text.
* `Decimal.readUInt32_eq_ok`, `Decimal.readInt32_eq_ok`: a text is read as a number exactly if it
  stands for it.
* `Decimal.readUInt32_eq_error`, `Decimal.readInt32_eq_error`: what is reported is what is wrong
  first.
* `Decimal.numeral_ofInt`, `Decimal.ofInt_injective`: the text of a number stands for it alone.
-/

namespace RecordMapper.Decimal

/-! ## Writing -/

theorem isDigit_of_mem_ofNat {n : Nat} {c : Char} (h : c ∈ (ofNat n).toList) : c.isDigit := by
  rw [ofNat, String.toList_ofList] at h
  exact Nat.isDigit_of_mem_toDigits (by decide) (by decide) h

theorem ofNat_ne_nil (n : Nat) : (ofNat n).toList ≠ [] := by
  rw [ofNat, String.toList_ofList]
  exact Nat.toDigits_ne_nil

theorem isDigit_of_eq_cons {n : Nat} {rest more : List Char} {c : Char}
    (h : (ofNat n).toList ++ rest = c :: more) : c.isDigit := by
  have hhead : ((ofNat n).toList ++ rest).head? = (ofNat n).toList.head? :=
    List.head?_append_of_ne_nil _ (ofNat_ne_nil n)
  rw [h] at hhead
  exact isDigit_of_mem_ofNat (List.mem_of_head? hhead.symm)

/-- The digits of a number have it as their value. -/
theorem ofDigitChars_ofNat (n : Nat) : Nat.ofDigitChars 10 (ofNat n).toList 0 = n := by
  rw [ofNat, String.toList_ofList, Nat.ofDigitChars_ten_toDigits]

/-- Only the text of zero starts with a zero. -/
theorem head?_ofNat {n : Nat} (hn : 0 < n) : (ofNat n).toList.head? ≠ some '0' := by
  rw [ofNat, String.toList_ofList]
  -- by induction on the digits: the first one stays in front when others are added
  induction n using Nat.base_induction 10 (by decide) with
  | single m hm =>
    have hchar : ∀ d : Fin 10, 0 < d.val → Nat.digitChar d.val ≠ '0' := by decide
    rw [Nat.toDigits_of_lt_base hm, List.head?_cons]
    exact fun hzero => hchar ⟨m, hm⟩ hn (Option.some.inj hzero)
  | digit m d hd hm ih =>
    rw [← Nat.toDigits_append_toDigits (by decide) hm hd,
      List.head?_append_of_ne_nil _ Nat.toDigits_ne_nil]
    exact ih hm

theorem mem_ofInt {n : Int} {c : Char} (h : c ∈ (ofInt n).toList) : c = '-' ∨ c.isDigit := by
  cases n with
  | ofNat n => exact .inr (isDigit_of_mem_ofNat h)
  | negSucc n =>
    rw [ofInt, String.toList_append] at h
    rcases List.mem_append.mp h with hsign | hdigit
    · exact .inl (by simpa using hsign)
    · exact .inr (isDigit_of_mem_ofNat hdigit)

/-! ## Reading digits -/

theorem le_ofDigitChars (text : List Char) (value : Nat) :
    value ≤ Nat.ofDigitChars 10 text value := by
  induction text generalizing value with
  | nil => exact Nat.le_of_eq Nat.ofDigitChars_nil.symm
  | cons c rest ih =>
    have hrest := ih (10 * value + (c.toNat - '0'.toNat))
    rw [Nat.ofDigitChars_cons]
    omega

theorem extend_eq_ok {greatest : Nat} {beyond : IntegerFault} {value n : Nat} {text : List Char}
    (hvalue : value ≤ greatest) :
    extend greatest beyond value text = .ok n ↔
      (∀ c ∈ text, c.isDigit) ∧ Nat.ofDigitChars 10 text value = n ∧ n ≤ greatest := by
  induction text generalizing value with
  | nil =>
    rw [extend, Nat.ofDigitChars_nil]
    constructor
    · rintro ⟨⟩
      exact ⟨nofun, rfl, hvalue⟩
    · rintro ⟨-, rfl, -⟩
      rfl
  | cons c rest ih =>
    rw [extend, digit?, List.forall_mem_cons, Nat.ofDigitChars_cons]
    by_cases hdigit : c.isDigit
    · rw [if_pos hdigit]
      dsimp only
      split
      · next hle =>
        rw [ih hle]
        constructor
        · rintro ⟨hrest, hn, hgreatest⟩
          exact ⟨⟨hdigit, hrest⟩, hn, hgreatest⟩
        · rintro ⟨⟨-, hrest⟩, hn, hgreatest⟩
          exact ⟨hrest, hn, hgreatest⟩
      · next hlt =>
        -- more digits do not make a number smaller
        have hgrows := le_ofDigitChars rest (10 * value + (c.toNat - '0'.toNat))
        refine ⟨nofun, ?_⟩
        rintro ⟨-, rfl, hgreatest⟩
        omega
    · rw [if_neg hdigit]
      exact ⟨nofun, fun h => absurd h.1.1 hdigit⟩

theorem readDigits_eq_ok {greatest : Nat} {beyond : IntegerFault} {n : Nat} {text : List Char} :
    readDigits greatest beyond text = .ok n ↔
      text ≠ [] ∧ (∀ c ∈ text, c.isDigit) ∧ Nat.ofDigitChars 10 text 0 = n ∧ n ≤ greatest := by
  cases text with
  | nil => exact ⟨nofun, fun h => absurd rfl h.1⟩
  | cons c rest =>
    rw [readDigits, extend_eq_ok (Nat.zero_le greatest)]
    exact ⟨fun h => ⟨List.cons_ne_nil c rest, h⟩, fun h => h.2⟩

/-! ## Digits that go wrong -/

/-- What is wrong with a character behind digits of `value`: it is no digit, or it is one that leads
beyond `greatest`. -/
def WrongAt (greatest : Nat) (beyond : IntegerFault) (value : Nat) (c : Char)
    (cause : IntegerFault) : Prop :=
  ¬ c.isDigit ∧ cause = .invalidDigit ∨
    c.isDigit ∧ greatest < 10 * value + (c.toNat - '0'.toNat) ∧ cause = beyond

/-- Where digits that continue `value` go wrong first. What comes before are digits that stay at or
below `greatest`. -/
def Stops (greatest : Nat) (beyond : IntegerFault) (value : Nat) (text : List Char)
    (cause : IntegerFault) : Prop :=
  ∃ before c after, text = before ++ c :: after ∧ (∀ d ∈ before, d.isDigit) ∧
    Nat.ofDigitChars 10 before value ≤ greatest ∧
      WrongAt greatest beyond (Nat.ofDigitChars 10 before value) c cause

section Stops

variable {greatest value : Nat} {beyond cause : IntegerFault} {text : List Char}

theorem Stops.ne_nil (h : Stops greatest beyond value text cause) : text ≠ [] := by
  obtain ⟨before, c, after, rfl, -⟩ := h
  exact List.append_ne_nil_of_right_ne_nil before (List.cons_ne_nil c after)

/-- Digits go wrong at the first character, or at a later one. -/
theorem stops_cons {c : Char} {rest : List Char} (hvalue : value ≤ greatest) :
    Stops greatest beyond value (c :: rest) cause ↔
      WrongAt greatest beyond value c cause ∨
      c.isDigit ∧ 10 * value + (c.toNat - '0'.toNat) ≤ greatest ∧
        Stops greatest beyond (10 * value + (c.toNat - '0'.toNat)) rest cause := by
  constructor
  · rintro ⟨before, d, after, htext, hbefore, hle, hwrong⟩
    cases before with
    | nil =>
      obtain ⟨rfl, rfl⟩ := List.cons.inj htext
      rw [Nat.ofDigitChars_nil] at hwrong
      exact .inl hwrong
    | cons first before =>
      obtain ⟨rfl, rfl⟩ := List.cons.inj htext
      obtain ⟨hc, hdigits⟩ := List.forall_mem_cons.mp hbefore
      rw [Nat.ofDigitChars_cons] at hle hwrong
      have hnext := Nat.le_trans (le_ofDigitChars before _) hle
      exact .inr ⟨hc, hnext, before, d, after, rfl, hdigits, hle, hwrong⟩
  · rintro (hwrong | ⟨hc, -, before, d, after, rfl, hdigits, hle, hwrong⟩)
    · refine ⟨[], c, rest, rfl, nofun, ?_, ?_⟩
      · rwa [Nat.ofDigitChars_nil]
      · rwa [Nat.ofDigitChars_nil]
    · refine ⟨c :: before, d, after, rfl, List.forall_mem_cons.mpr ⟨hc, hdigits⟩, ?_, ?_⟩
      · rwa [Nat.ofDigitChars_cons]
      · rwa [Nat.ofDigitChars_cons]

theorem extend_eq_error (hvalue : value ≤ greatest) :
    extend greatest beyond value text = .error cause ↔ Stops greatest beyond value text cause := by
  induction text generalizing value with
  | nil => exact ⟨nofun, fun h => absurd rfl h.ne_nil⟩
  | cons c rest ih =>
    rw [extend, digit?, stops_cons hvalue, WrongAt]
    by_cases hc : c.isDigit
    · rw [if_pos hc]
      dsimp only
      generalize 10 * value + (c.toNat - '0'.toNat) = next
      by_cases hle : next ≤ greatest
      · simp [hc, hle, Nat.not_lt.mpr hle, ih hle]
      · simp [hc, hle, Nat.lt_of_not_le hle, @eq_comm _ cause]
    · simp [hc, eq_comm]

theorem readDigits_eq_error : readDigits greatest beyond text = .error cause ↔
    text = [] ∧ cause = .invalidDigit ∨ Stops greatest beyond 0 text cause := by
  cases text with
  | nil =>
    rw [readDigits, Except.error.injEq, eq_comm]
    exact ⟨fun h => .inl ⟨rfl, h⟩, fun h => (h.resolve_right fun hstops => hstops.ne_nil rfl).2⟩
  | cons c rest =>
    rw [readDigits, extend_eq_error (Nat.zero_le greatest)]
    exact ⟨.inr, fun h => h.resolve_left fun hnil => absurd hnil.1 (List.cons_ne_nil c rest)⟩

end Stops

/-! ## Numerals -/

/-- Digits with at most one sign before them, and the number for which they stand. -/
inductive Numeral : List Char → Int → Prop
  | digits {text : List Char} : text ≠ [] → (∀ c ∈ text, c.isDigit) →
      Numeral text (Nat.ofDigitChars 10 text 0)
  | plus {text : List Char} : text ≠ [] → (∀ c ∈ text, c.isDigit) →
      Numeral ('+' :: text) (Nat.ofDigitChars 10 text 0)
  | minus {text : List Char} : text ≠ [] → (∀ c ∈ text, c.isDigit) →
      Numeral ('-' :: text) (-(Nat.ofDigitChars 10 text 0 : Int))

theorem numeral_ofNat (n : Nat) : Numeral (ofNat n).toList n := by
  have h := Numeral.digits (ofNat_ne_nil n) fun _ hc => isDigit_of_mem_ofNat hc
  rwa [ofDigitChars_ofNat] at h

theorem numeral_ofInt (n : Int) : Numeral (ofInt n).toList n := by
  cases n with
  | ofNat n => exact numeral_ofNat n
  | negSucc n =>
    have h := Numeral.minus (ofNat_ne_nil (n + 1)) fun _ hc => isDigit_of_mem_ofNat hc
    rw [ofDigitChars_ofNat] at h
    rw [ofInt, String.toList_append]
    exact h

theorem head?_ne_of_digits {text : List Char} {c : Char} (hdigits : ∀ d ∈ text, d.isDigit)
    (hc : ¬ c.isDigit) : text.head? ≠ some c :=
  fun h => hc (hdigits c (List.mem_of_head? h))

/-- The first thing that is wrong with a text as a number up to `greatest`. What may follow a minus
sign is bounded by `least?`, if there may be such a sign. -/
inductive FirstFault (least? : Option Nat) (greatest : Nat) : List Char → IntegerFault → Prop
  | empty : FirstFault least? greatest [] .empty
  | loneSign {c : Char} : c = '+' ∨ c = '-' → FirstFault least? greatest [c] .invalidDigit
  | plus {text : List Char} {cause : IntegerFault} : Stops greatest .tooLarge 0 text cause →
      FirstFault least? greatest ('+' :: text) cause
  | minus {text : List Char} {cause : IntegerFault} {least : Nat} : least? = some least →
      Stops least .tooSmall 0 text cause → FirstFault least? greatest ('-' :: text) cause
  | unsigned {text : List Char} {cause : IntegerFault} : text.head? ≠ some '+' →
      (text.head? = some '-' → least? = none) → Stops greatest .tooLarge 0 text cause →
        FirstFault least? greatest text cause

/-! ## Reading numbers -/

section Reading

variable {least greatest : Nat} {text : List Char}

theorem readUnsigned_of_head? (hne : text ≠ []) (hplus : text.head? ≠ some '+') :
    readUnsigned greatest text = readDigits greatest .tooLarge text := by
  unfold readUnsigned
  split
  · exact absurd rfl hne
  · exact absurd rfl hplus
  · rfl

theorem readSigned_of_head? (hne : text ≠ []) (hplus : text.head? ≠ some '+')
    (hminus : text.head? ≠ some '-') :
    readSigned least greatest text = Int.ofNat <$> readDigits greatest .tooLarge text := by
  unfold readSigned
  split
  · exact absurd rfl hne
  · exact absurd rfl hplus
  · exact absurd rfl hminus
  · rfl

theorem readUnsigned_eq_ok {n : Nat} : readUnsigned greatest text = .ok n ↔
    Numeral text n ∧ text.head? ≠ some '-' ∧ n ≤ greatest := by
  constructor
  · intro h
    unfold readUnsigned at h
    split at h
    · cases h
    · obtain ⟨hne, hdigits, rfl, hle⟩ := readDigits_eq_ok.mp h
      exact ⟨.plus hne hdigits, by simp, hle⟩
    · obtain ⟨hne, hdigits, rfl, hle⟩ := readDigits_eq_ok.mp h
      exact ⟨.digits hne hdigits, head?_ne_of_digits hdigits (by decide), hle⟩
  · rintro ⟨hnumeral, hminus, hle⟩
    generalize hn : (n : Int) = number at hnumeral
    cases hnumeral with
    | digits hne hdigits =>
      rw [readUnsigned_of_head? hne (head?_ne_of_digits hdigits (by decide)), readDigits_eq_ok]
      exact ⟨hne, hdigits, (Int.ofNat_inj.mp hn).symm, hle⟩
    | plus hne hdigits =>
      exact readDigits_eq_ok.mpr ⟨hne, hdigits, (Int.ofNat_inj.mp hn).symm, hle⟩
    | minus => exact absurd rfl hminus

theorem readSigned_eq_ok {n : Int} : readSigned least greatest text = .ok n ↔
    Numeral text n ∧ -least ≤ n ∧ n ≤ greatest := by
  constructor
  · intro h
    unfold readSigned at h
    split at h
    · cases h
    · obtain ⟨m, hread, rfl⟩ := map_eq_ok.mp h
      obtain ⟨hne, hdigits, rfl, hle⟩ := readDigits_eq_ok.mp hread
      rw [Int.ofNat_eq_natCast]
      exact ⟨.plus hne hdigits, by omega, by omega⟩
    · obtain ⟨m, hread, rfl⟩ := map_eq_ok.mp h
      obtain ⟨hne, hdigits, rfl, hle⟩ := readDigits_eq_ok.mp hread
      rw [Int.ofNat_eq_natCast]
      exact ⟨.minus hne hdigits, by omega, by omega⟩
    · obtain ⟨m, hread, rfl⟩ := map_eq_ok.mp h
      obtain ⟨hne, hdigits, rfl, hle⟩ := readDigits_eq_ok.mp hread
      rw [Int.ofNat_eq_natCast]
      exact ⟨.digits hne hdigits, by omega, by omega⟩
  · rintro ⟨hnumeral, hleast, hgreatest⟩
    cases hnumeral with
    | digits hne hdigits =>
      rw [readSigned_of_head? hne (head?_ne_of_digits hdigits (by decide))
        (head?_ne_of_digits hdigits (by decide)), map_eq_ok]
      exact ⟨_, readDigits_eq_ok.mpr ⟨hne, hdigits, rfl, by omega⟩, rfl⟩
    | plus hne hdigits =>
      exact map_eq_ok.mpr ⟨_, readDigits_eq_ok.mpr ⟨hne, hdigits, rfl, by omega⟩, rfl⟩
    | minus hne hdigits =>
      exact map_eq_ok.mpr ⟨_, readDigits_eq_ok.mpr ⟨hne, hdigits, rfl, by omega⟩, rfl⟩

end Reading

/-- A text stands for one number only. -/
theorem Numeral.unique {text : List Char} {n m : Int} (hn : Numeral text n) (hm : Numeral text m) :
    n = m := by
  -- within bounds that are wide enough both are what is read
  let bound := n.natAbs + m.natAbs
  have hreadn : readSigned bound bound text = .ok n :=
    readSigned_eq_ok.mpr ⟨hn, by omega, by omega⟩
  have hreadm : readSigned bound bound text = .ok m :=
    readSigned_eq_ok.mpr ⟨hm, by omega, by omega⟩
  exact Except.ok.inj (hreadn.symm.trans hreadm)

theorem ofInt_injective {n m : Int} (h : ofInt n = ofInt m) : n = m :=
  (numeral_ofInt n).unique (h ▸ numeral_ofInt m)

theorem ofNat_injective {n m : Nat} (h : ofNat n = ofNat m) : n = m := by
  rw [← ofDigitChars_ofNat n, h, ofDigitChars_ofNat]

theorem readUInt32_eq_ok {text : String} {n : UInt32} : readUInt32 text = .ok n ↔
    Numeral text.toList n.toNat ∧ text.toList.head? ≠ some '-' := by
  rw [readUInt32, map_eq_ok]
  constructor
  · rintro ⟨m, hread, rfl⟩
    obtain ⟨hnumeral, hminus, hle⟩ := readUnsigned_eq_ok.mp hread
    have hlt : m < UInt32.size := Nat.lt_of_le_pred (by decide) hle
    rw [UInt32.toNat_ofNat_of_lt' hlt]
    exact ⟨hnumeral, hminus⟩
  · rintro ⟨hnumeral, hminus⟩
    exact ⟨n.toNat, readUnsigned_eq_ok.mpr ⟨hnumeral, hminus, Nat.le_sub_one_of_lt n.toNat_lt_size⟩,
      UInt32.ofNat_toNat⟩

theorem readInt32_eq_ok {text : String} {n : Int32} :
    readInt32 text = .ok n ↔ Numeral text.toList n.toInt := by
  rw [readInt32, map_eq_ok]
  constructor
  · rintro ⟨m, hread, rfl⟩
    obtain ⟨hnumeral, hleast, hgreatest⟩ := readSigned_eq_ok.mp hread
    rwa [Int32.toInt_ofInt_of_le hleast (Int.lt_of_le_sub_one hgreatest)]
  · intro hnumeral
    have hleast : -((1 <<< 31 : Nat) : Int) ≤ n.toInt := n.le_toInt
    have hgreatest : n.toInt ≤ (((1 <<< 31) - 1 : Nat) : Int) := Int.le_sub_one_of_lt n.toInt_lt
    exact ⟨n.toInt, readSigned_eq_ok.mpr ⟨hnumeral, hleast, hgreatest⟩, n.ofInt_toInt⟩

theorem readUInt32_ofNat (n : UInt32) : readUInt32 (ofNat n.toNat) = .ok n := by
  refine readUInt32_eq_ok.mpr ⟨numeral_ofNat n.toNat, ?_⟩
  exact head?_ne_of_digits (fun _ hc => isDigit_of_mem_ofNat hc) (by decide)

/-! ## Reading what is no number -/

section FirstFault

variable {least? : Option Nat} {least greatest : Nat} {cause : IntegerFault}
  {text rest : List Char}

theorem firstFault_nil : FirstFault least? greatest [] cause ↔ cause = .empty := by
  constructor
  · intro h
    cases h with
    | empty => rfl
    | unsigned _ _ hstops => exact absurd rfl hstops.ne_nil
  · rintro rfl
    exact .empty

theorem firstFault_plus : FirstFault least? greatest ('+' :: rest) cause ↔
    rest = [] ∧ cause = .invalidDigit ∨ Stops greatest .tooLarge 0 rest cause := by
  constructor
  · intro h
    cases h with
    | loneSign => exact .inl ⟨rfl, rfl⟩
    | plus hstops => exact .inr hstops
    | unsigned hplus => exact absurd rfl hplus
  · rintro (⟨rfl, rfl⟩ | hstops)
    · exact .loneSign (.inl rfl)
    · exact .plus hstops

theorem firstFault_minus : FirstFault (some least) greatest ('-' :: rest) cause ↔
    rest = [] ∧ cause = .invalidDigit ∨ Stops least .tooSmall 0 rest cause := by
  constructor
  · intro h
    cases h with
    | loneSign => exact .inl ⟨rfl, rfl⟩
    | minus hleast hstops =>
      cases hleast
      exact .inr hstops
    | unsigned _ hminus => exact absurd (hminus rfl) (Option.some_ne_none least)
  · rintro (⟨rfl, rfl⟩ | hstops)
    · exact .loneSign (.inr rfl)
    · exact .minus rfl hstops

/-- Where no sign may come first, what is wrong is what stops the digits. -/
theorem firstFault_of_head? (hne : text ≠ []) (hplus : text.head? ≠ some '+')
    (hminus : text.head? = some '-' → least? = none) :
    FirstFault least? greatest text cause ↔ Stops greatest .tooLarge 0 text cause := by
  constructor
  · intro h
    cases h with
    | empty => exact absurd rfl hne
    | loneSign hc =>
      obtain rfl | rfl := hc
      · exact absurd rfl hplus
      · exact (stops_cons (Nat.zero_le _)).mpr (.inl (.inl ⟨by decide, rfl⟩))
    | plus => exact absurd rfl hplus
    | minus hleast => cases hleast.symm.trans (hminus rfl)
    | unsigned _ _ hstops => exact hstops
  · exact .unsigned hplus hminus

theorem readUnsigned_eq_error :
    readUnsigned greatest text = .error cause ↔ FirstFault none greatest text cause := by
  by_cases hne : text = []
  · rw [hne, firstFault_nil, readUnsigned, Except.error.injEq, eq_comm]
  by_cases hplus : text.head? = some '+'
  · obtain ⟨rest, rfl⟩ := List.head?_eq_some_iff.mp hplus
    rw [firstFault_plus, readUnsigned, readDigits_eq_error]
  · rw [firstFault_of_head? hne hplus fun _ => rfl, readUnsigned_of_head? hne hplus,
      readDigits_eq_error, or_iff_right fun h => hne h.1]

theorem readSigned_eq_error :
    readSigned least greatest text = .error cause ↔
      FirstFault (some least) greatest text cause := by
  by_cases hne : text = []
  · rw [hne, firstFault_nil, readSigned, Except.error.injEq, eq_comm]
  by_cases hplus : text.head? = some '+'
  · obtain ⟨rest, rfl⟩ := List.head?_eq_some_iff.mp hplus
    rw [firstFault_plus, readSigned, map_eq_error, readDigits_eq_error]
  by_cases hminus : text.head? = some '-'
  · obtain ⟨rest, rfl⟩ := List.head?_eq_some_iff.mp hminus
    rw [firstFault_minus, readSigned, map_eq_error, readDigits_eq_error]
  · rw [firstFault_of_head? hne hplus fun h => absurd h hminus,
      readSigned_of_head? hne hplus hminus, map_eq_error, readDigits_eq_error,
      or_iff_right fun h => hne h.1]

end FirstFault

theorem readUInt32_eq_error {text : String} {cause : IntegerFault} :
    readUInt32 text = .error cause ↔ FirstFault none 4294967295 text.toList cause :=
  map_eq_error.trans readUnsigned_eq_error

theorem readInt32_eq_error {text : String} {cause : IntegerFault} :
    readInt32 text = .error cause ↔
      FirstFault (some 2147483648) 2147483647 text.toList cause :=
  map_eq_error.trans readSigned_eq_error

end RecordMapper.Decimal
