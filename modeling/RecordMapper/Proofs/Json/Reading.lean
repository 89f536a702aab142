import Mathlib.Data.List.TakeDrop
import RecordMapper.Json.Reader
import RecordMapper.Proofs.Decimal

/-!
# JSON is read back

* `Json.Exact`: values whose numbers say all that is written of them.
* `Json.readNumber_render`: a number is read back from its digits.
* `Json.readPieces_escape`, `Json.exists_readString_quote`: a string is read back from its escapes.
* `Json.Exact.readsBack`: a value is read back, whatever of an enclosing value follows it.
* `Json.read?_render`: the text of a value determines it.
-/

namespace RecordMapper.Json

/-! ## What may follow a value -/

/-- A value ends at a comma, at a closing bracket or brace, or at the end of the text. -/
def Closes (rest : List Char) : Prop := ∀ c ∈ rest.head?, c = ',' ∨ c = ']' ∨ c = '\x7d'

theorem closes_nil : Closes [] := by
  intro c hc
  cases hc

theorem closes_cons {c : Char} (h : c = ',' ∨ c = ']' ∨ c = '\x7d') (rest : List Char) :
    Closes (c :: rest) := by
  rintro _ ⟨⟩
  exact h

/-- Nothing that goes on with a number may follow a value. -/
theorem Closes.head {rest : List Char} (h : Closes rest) {c : Char} (hc : c ∈ rest.head?) :
    c.isDigit = false ∧ c ≠ '.' ∧ c ≠ 'e' ∧ c ≠ 'E' := by
  rcases h c hc with rfl | rfl | rfl <;> decide

theorem skipBlanks_cons {c : Char} (h : isBlank c = false) (rest : List Char) :
    skipBlanks (c :: rest) = c :: rest := by
  rw [skipBlanks, List.dropWhile_cons_of_neg (by rw [h]; exact Bool.false_ne_true)]

theorem not_isBlank_of_isDigit {c : Char} (h : c.isDigit) : isBlank c = false := by
  have hother : ∀ d : Char, d.isDigit = false → (c == d) = false := by
    rintro d hd
    rw [beq_eq_false_iff_ne]
    rintro rfl
    exact absurd h (by rw [hd]; exact Bool.false_ne_true)
  rw [isBlank, hother ' ' rfl, hother '\t' rfl, hother '\n' rfl, hother '\r' rfl]
  rfl

/-! ## Numbers -/

section Numbers

theorem digitsValue_ofNat (n : Nat) : digitsValue 0 (Decimal.ofNat n).toList = n := by
  rw [digitsValue, ← Nat.ofDigitChars_eq_foldl, Decimal.ofDigitChars_ofNat]

variable {rest : List Char}

theorem readDigits_ofNat (n : Nat) (hrest : ∀ c ∈ rest.head?, c.isDigit = false) :
    readDigits ((Decimal.ofNat n).toList ++ rest) = some ((Decimal.ofNat n).toList, rest) := by
  obtain ⟨htake, hdrop⟩ :=
    takeWhile_append_of_head (fun _ hc => Decimal.isDigit_of_mem_ofNat hc) hrest
  rw [readDigits, List.span_eq_takeWhile_dropWhile, htake, hdrop]
  split
  · next hempty => exact absurd (Prod.mk.inj hempty).1 (Decimal.ofNat_ne_nil n)
  · next h =>
    cases h
    rfl

theorem readWhole_ofNat (n : Nat) (hrest : ∀ c ∈ rest.head?, c.isDigit = false) :
    readWhole ((Decimal.ofNat n).toList ++ rest) = some ((Decimal.ofNat n).toList, rest) := by
  rcases Nat.eq_zero_or_pos n with rfl | hn
  · rfl
  · have hhead : ((Decimal.ofNat n).toList ++ rest).head? ≠ some '0' := by
      rw [List.head?_append_of_ne_nil _ (Decimal.ofNat_ne_nil n)]
      exact Decimal.head?_ofNat hn
    unfold readWhole
    split
    · next hzero =>
      rw [hzero] at hhead
      exact absurd rfl hhead
    · exact readDigits_ofNat n hrest

theorem readFraction_of_head (h : ∀ c ∈ rest.head?, c ≠ '.') :
    readFraction rest = some (none, rest) := by
  unfold readFraction
  split
  · exact absurd rfl (h '.' rfl)
  · rfl

theorem readExponent_of_head (h : ∀ c ∈ rest.head?, c ≠ 'e' ∧ c ≠ 'E') :
    readExponent rest = some (none, rest) := by
  unfold readExponent
  split
  · exact absurd rfl (h 'e' rfl).1
  · exact absurd rfl (h 'E' rfl).2
  · rfl

theorem readPower_ofInt (n : Int) (hrest : ∀ c ∈ rest.head?, c.isDigit = false) :
    readPower ((Decimal.ofInt n).toList ++ rest) = some (n, rest) := by
  cases n with
  | ofNat n =>
    rw [Decimal.ofInt]
    unfold readPower
    split
    · next hplus => exact absurd (Decimal.isDigit_of_eq_cons hplus) (by decide)
    · next hminus => exact absurd (Decimal.isDigit_of_eq_cons hminus) (by decide)
    · rw [readDigits_ofNat n hrest, Option.map_some, digitsValue_ofNat]
  | negSucc n =>
    have htext : (Decimal.ofInt (.negSucc n)).toList ++ rest =
        '-' :: ((Decimal.ofNat (n + 1)).toList ++ rest) := by
      rw [Decimal.ofInt, String.toList_append]
      rfl
    rw [htext, readPower, readDigits_ofNat _ hrest, Option.map_some, digitsValue_ofNat]
    rfl

/-- A number whose text says all of it: one that was written plainly has no scale. -/
def Number.Exact (number : Number) : Prop :=
  number.isPlain = true → number.scale = 0

/-- The digits of a number and its exponent, if it is not plain, are read back. -/
theorem readMagnitude_render {number : Number} (h : number.Exact) (hrest : Closes rest) :
    readMagnitude number.negative ((Decimal.ofNat number.digits).toList ++
      ((if number.isPlain then "" else "e" ++ Decimal.ofInt number.scale).toList ++ rest)) =
        some (number, rest) := by
  obtain ⟨negative, digits, scale, isPlain⟩ := number
  have hends : ∀ c ∈ rest.head?, c.isDigit = false := fun _ hc => (hrest.head hc).1
  cases isPlain with
  | true =>
    obtain rfl : scale = 0 := h rfl
    have hwhole := readWhole_ofNat digits hends
    have hfraction := readFraction_of_head fun _ hc => (hrest.head hc).2.1
    have hexponent := readExponent_of_head fun _ hc => (hrest.head hc).2.2
    change readMagnitude negative ((Decimal.ofNat digits).toList ++ rest) = _
    simp only [readMagnitude, hwhole, hfraction, hexponent, digitsValue_ofNat,
      Option.bind_eq_bind, Option.bind_some]
    rfl
  | false =>
    have htext : ("e" ++ Decimal.ofInt scale).toList ++ rest =
        'e' :: ((Decimal.ofInt scale).toList ++ rest) := by
      rw [String.toList_append]
      rfl
    have hwhole : readWhole ((Decimal.ofNat digits).toList ++
        'e' :: ((Decimal.ofInt scale).toList ++ rest)) = some ((Decimal.ofNat digits).toList, _) :=
      readWhole_ofNat digits (by rintro _ ⟨⟩; rfl)
    have hfraction : readFraction ('e' :: ((Decimal.ofInt scale).toList ++ rest)) =
        some (none, 'e' :: ((Decimal.ofInt scale).toList ++ rest)) :=
      readFraction_of_head (by rintro _ ⟨⟩; decide)
    have hexponent : readExponent ('e' :: ((Decimal.ofInt scale).toList ++ rest)) =
        some (some scale, rest) := by
      rw [readExponent, readPower_ofInt scale hends]
      rfl
    change readMagnitude negative ((Decimal.ofNat digits).toList ++
      (("e" ++ Decimal.ofInt scale).toList ++ rest)) = _
    rw [htext]
    simp only [readMagnitude, hwhole, hfraction, hexponent, digitsValue_ofNat,
      Option.bind_eq_bind, Option.bind_some, Option.getD_some, Option.getD_none, List.length_nil]
    rw [Int.natCast_zero, Int.sub_zero]
    rfl

/-- A number is read back from its text. -/
theorem readNumber_render {number : Number} (h : number.Exact) (hrest : Closes rest) :
    readNumber (number.render.toList ++ rest) = some (number, rest) := by
  have hread := readMagnitude_render h hrest
  rw [Number.render, String.toList_append, String.toList_append, List.append_assoc,
    List.append_assoc]
  cases hnegative : number.negative with
  | true =>
    rw [hnegative] at hread
    exact hread
  | false =>
    rw [hnegative] at hread
    change readNumber ((Decimal.ofNat number.digits).toList ++ _) = _
    unfold readNumber
    split
    · next hminus => exact absurd (Decimal.isDigit_of_eq_cons hminus) (by decide)
    · exact hread

end Numbers

/-! ## Strings -/

/-- A part of a string stands for a character. -/
def Piece.StandsFor (piece : Piece) (c : Char) : Prop :=
  ∀ pieces, joinPieces (piece :: pieces) = (c :: ·) <$> joinPieces pieces

theorem Piece.standsFor_char (c : Char) : (Piece.char c).StandsFor c :=
  fun _ => rfl

theorem Piece.standsFor_unit {n : Nat} (hhigh : isHighHalf n = false)
    (hlow : isLowHalf n = false) : (Piece.unit n).StandsFor (Char.ofNat n) := by
  intro pieces
  rcases pieces with _ | ⟨c | low, pieces⟩ <;> simp [joinPieces, hhigh, hlow]

theorem readPieces_letter {letter c : Char} (h : unescape? letter = some c) (rest : List Char) :
    readPieces ('\\' :: letter :: rest) =
      (readPieces rest).map fun r => (.char c :: r.1, r.2) := by
  have hu : letter ≠ 'u' := by
    rintro rfl
    cases h
  rw [readPieces, h, Option.map_eq_bind]
  · rfl
  · intro _ _ _ _ _ hletter _
    exact hu hletter

theorem readPieces_plain {c : Char} (hquote : c ≠ '"') (hbackslash : c ≠ '\\')
    (hprinted : ¬ c.toNat < 0x20) (rest : List Char) :
    readPieces (c :: rest) = (readPieces rest).map fun r => (.char c :: r.1, r.2) := by
  rw [readPieces, if_neg hprinted, Option.map_eq_bind]
  · rfl
  · exact hquote
  · rintro _ _ _ _ _ rfl
    exact absurd rfl hbackslash
  · rintro _ _ rfl
    exact absurd rfl hbackslash

/-- The number of a character below the space is read back. -/
theorem hexNumber?_control {n : Nat} (h : n < 0x20) :
    Text.hexNumber? ['0', '0', Text.hexDigit (n / 16), Text.hexDigit n] = some n := by
  have hzero : Text.hexValue? '0' = some 0 := rfl
  simp only [Text.hexNumber?, List.foldlM_cons, List.foldlM_nil, hzero, Text.hexValue?_hexDigit,
    Option.map_eq_map, Option.map_some, Option.bind_eq_bind, Option.bind_some]
  exact congrArg some (by omega)

theorem readPieces_control {n : Nat} (h : n < 0x20) (rest : List Char) :
    readPieces ('\\' :: 'u' :: '0' :: '0' :: Text.hexDigit (n / 16) :: Text.hexDigit n :: rest) =
      (readPieces rest).map fun r => (.unit n :: r.1, r.2) := by
  rw [readPieces, hexNumber?_control h, Option.map_eq_bind]
  rfl

/-- Each character is read back from its escape. -/
theorem readPieces_escape (c : Char) : ∃ piece : Piece, piece.StandsFor c ∧
    ∀ rest, readPieces (escape c ++ rest) =
      (readPieces rest).map fun r => (piece :: r.1, r.2) := by
  unfold escape
  split
  case h_8 hquote hbackslash _ _ _ _ _ =>
    split
    · next hcontrol =>
      have hhigh : isHighHalf c.toNat = false := by
        rw [isHighHalf, decide_eq_false (by omega), Bool.false_and]
      have hlow : isLowHalf c.toNat = false := by
        rw [isLowHalf, decide_eq_false (by omega), Bool.false_and]
      have hstands := Piece.standsFor_unit hhigh hlow
      rw [Char.ofNat_toNat] at hstands
      exact ⟨_, hstands, readPieces_control hcontrol⟩
    · next hprinted =>
      exact ⟨_, Piece.standsFor_char c, readPieces_plain hquote hbackslash hprinted⟩
  all_goals exact ⟨_, Piece.standsFor_char _, readPieces_letter rfl⟩

/-- A text is read back from its escapes. -/
theorem readPieces_content (content : List Char) :
    ∃ pieces, joinPieces pieces = some content ∧
      ∀ rest, readPieces (content.flatMap escape ++ '"' :: rest) = some (pieces, rest) := by
  induction content with
  | nil => exact ⟨[], rfl, fun _ => rfl⟩
  | cons c content ih =>
    obtain ⟨pieces, hjoin, hpieces⟩ := ih
    obtain ⟨piece, hstands, hpiece⟩ := readPieces_escape c
    refine ⟨piece :: pieces, ?_, fun rest => ?_⟩
    · rw [hstands, hjoin]
      rfl
    · rw [List.flatMap_cons, List.append_assoc, hpiece, hpieces]
      rfl

/-- A string is read back, also one that is no text. -/
theorem exists_readString_quote (content : Option String) :
    ∃ body, (quote content).toList = '"' :: body ∧
      ∀ rest, readString (body ++ rest) = some (content, rest) := by
  cases content with
  | none => exact ⟨_, rfl, fun _ => rfl⟩
  | some content =>
    obtain ⟨pieces, hjoin, hpieces⟩ := readPieces_content content.toList
    refine ⟨content.toList.flatMap escape ++ ['"'], ?_, fun rest => ?_⟩
    · rw [quote, String.toList_ofList]
      rfl
    · rw [List.append_assoc, List.singleton_append, readString, hpieces, Option.map_some, hjoin,
        Option.map_some, String.ofList_toList]

/-! ## Values -/

/-- A value whose numbers are exact. -/
inductive Exact : Json → Prop
  | null : Exact .null
  | bool (value : Bool) : Exact (.bool value)
  | number {value : Number} : value.Exact → Exact (.number value)
  | text (content : Option String) : Exact (.text content)
  | array {items : List Json} : (∀ item ∈ items, Exact item) → Exact (.array items)
  | object {members : List (Option String × Json)} :
      (∀ member ∈ members, Exact member.2) → Exact (.object members)

/-- A value is read from the start of a text in as many steps as its own text has characters. -/
def ReadsBack (value : Json) : Prop :=
  ∀ steps rest, value.render.toList.length ≤ steps → Closes rest →
    readValue steps (value.render.toList ++ rest) = some (value, rest)

theorem toList_render_array (items : List Json) : (render (.array items)).toList =
    '[' :: ((",".intercalate (renderItems items)).toList ++ [']']) := by
  rw [render, String.toList_append, String.toList_append]
  rfl

theorem toList_render_object (members : List (Option String × Json)) :
    (render (.object members)).toList =
      '\x7b' :: ((",".intercalate (renderMembers members)).toList ++ ['\x7d']) := by
  rw [render, String.toList_append, String.toList_append]
  rfl

/-- A number starts with a minus sign or a digit. -/
theorem Number.exists_head_render (number : Number) :
    ∃ c more, number.render.toList = c :: more ∧ (c = '-' ∨ c.isDigit) := by
  rw [render, String.toList_append, String.toList_append, List.append_assoc]
  cases number.negative with
  | true => exact ⟨_, _, rfl, .inl rfl⟩
  | false =>
    obtain ⟨c, digits, hdigits⟩ := List.exists_cons_of_ne_nil (Decimal.ofNat_ne_nil number.digits)
    have hc : c ∈ (Decimal.ofNat number.digits).toList := hdigits ▸ List.mem_cons_self
    rw [hdigits]
    exact ⟨c, _, rfl, .inr (Decimal.isDigit_of_mem_ofNat hc)⟩

/-- What a value starts with is no blank, and does not close a list. -/
theorem exists_head_render (value : Json) :
    ∃ c more, value.render.toList = c :: more ∧ isBlank c = false ∧ c ≠ ']' := by
  cases value with
  | null => exact ⟨'n', _, rfl, rfl, by decide⟩
  | bool value =>
    cases value with
    | true => exact ⟨'t', _, rfl, rfl, by decide⟩
    | false => exact ⟨'f', _, rfl, rfl, by decide⟩
  | number value =>
    obtain ⟨c, more, hhead, hc⟩ := value.exists_head_render
    refine ⟨c, more, hhead, ?_, ?_⟩
    · rcases hc with rfl | hdigit
      · rfl
      · exact not_isBlank_of_isDigit hdigit
    · rintro rfl
      exact absurd hc (by decide)
  | text content =>
    obtain ⟨body, hquote, -⟩ := exists_readString_quote content
    exact ⟨'"', body, hquote, rfl, by decide⟩
  | array items => exact ⟨'[', _, toList_render_array items, rfl, by decide⟩
  | object members => exact ⟨'\x7b', _, toList_render_object members, rfl, by decide⟩

theorem one_le_length_render (value : Json) : 1 ≤ value.render.toList.length := by
  obtain ⟨c, more, hhead, -, -⟩ := value.exists_head_render
  rw [hhead]
  exact Nat.le_add_left 1 _

theorem skipBlanks_render (value : Json) (rest : List Char) :
    skipBlanks (value.render.toList ++ rest) = value.render.toList ++ rest := by
  obtain ⟨c, more, hhead, hblank, -⟩ := value.exists_head_render
  rw [hhead, List.cons_append, skipBlanks_cons hblank]

theorem ReadsBack.of_succ {value : Json}
    (h : ∀ steps rest, value.render.toList.length ≤ steps + 1 → Closes rest →
      readValue (steps + 1) (value.render.toList ++ rest) = some (value, rest)) :
    value.ReadsBack := by
  intro steps rest hsteps hrest
  have hpos := value.one_le_length_render
  obtain ⟨steps, rfl⟩ : ∃ n, steps = n + 1 := ⟨steps - 1, by omega⟩
  exact h steps rest hsteps hrest

theorem readsBack_null : ReadsBack .null :=
  .of_succ fun _ _ _ _ => rfl

theorem readsBack_bool (value : Bool) : ReadsBack (.bool value) := by
  cases value <;> exact .of_succ fun _ _ _ _ => rfl

theorem readsBack_number {value : Number} (h : value.Exact) : ReadsBack (.number value) := by
  refine .of_succ fun steps rest _ hrest => ?_
  obtain ⟨c, more, hhead, hc⟩ := value.exists_head_render
  have hread := readNumber_render h hrest
  rw [readValue, skipBlanks_render, render]
  -- no other value starts as a number does
  split
  case h_7 =>
    rw [hread]
    rfl
  all_goals
    next hother =>
      rw [hhead] at hother
      cases hother
      exact absurd hc (by decide)

theorem readsBack_text (content : Option String) : ReadsBack (.text content) := by
  refine .of_succ fun steps rest _ _ => ?_
  obtain ⟨body, hquote, hread⟩ := exists_readString_quote content
  rw [readValue, skipBlanks_render, render, hquote, List.cons_append]
  change (readString (body ++ rest)).map _ = _
  rw [hread, Option.map_some]

theorem toList_intercalate_cons_cons (part next : String) (parts : List String) :
    (",".intercalate (part :: next :: parts)).toList =
      part.toList ++ ',' :: (",".intercalate (next :: parts)).toList := by
  rw [String.intercalate_cons_cons, String.toList_append, String.toList_append, List.append_assoc]
  rfl

/-- Items are read one by one up to the bracket that closes them. -/
theorem readItems_render {items : List Json} (hne : items ≠ [])
    (h : ∀ item ∈ items, item.ReadsBack) {steps : Nat}
    (hsteps : (",".intercalate (renderItems items)).toList.length < steps) (rest : List Char) :
    readItems steps ((",".intercalate (renderItems items)).toList ++ ']' :: rest) =
      some (items, rest) := by
  induction items generalizing steps with
  | nil => exact absurd rfl hne
  | cons item others ih =>
    obtain ⟨hitem, hothers⟩ := List.forall_mem_cons.mp h
    obtain ⟨steps, rfl⟩ : ∃ n, steps = n + 1 := ⟨steps - 1, by omega⟩
    cases others with
    | nil =>
      have hread := hitem steps (']' :: rest) (Nat.le_of_lt_succ hsteps)
        (closes_cons (.inr (.inl rfl)) rest)
      rw [renderItems, renderItems, String.intercalate_singleton, readItems, hread]
      rfl
    | cons next others =>
      have htext : (",".intercalate (renderItems (item :: next :: others))).toList =
          item.render.toList ++
            ',' :: (",".intercalate (renderItems (next :: others))).toList := by
        rw [renderItems, renderItems, toList_intercalate_cons_cons, ← renderItems]
      rw [htext, List.length_append, List.length_cons] at hsteps
      have hread := hitem steps
        (',' :: ((",".intercalate (renderItems (next :: others))).toList ++ ']' :: rest)) (by omega)
        (closes_cons (.inl rfl) _)
      have hfewer : (",".intercalate (renderItems (next :: others))).toList.length < steps := by
        omega
      have hmore := ih (List.cons_ne_nil next others) hothers hfewer
      rw [htext, List.append_assoc, List.cons_append, readItems, hread]
      change ((readItems steps _).bind fun r => some (item :: r.1, r.2)) = _
      rw [hmore]
      rfl

theorem exists_head_intercalate {P : Char → Prop} {part : String}
    (h : ∃ c more, part.toList = c :: more ∧ P c) (parts : List String) :
    ∃ c more, (",".intercalate (part :: parts)).toList = c :: more ∧ P c := by
  obtain ⟨c, more, hpart, hc⟩ := h
  cases parts with
  | nil =>
    rw [String.intercalate_singleton]
    exact ⟨c, more, hpart, hc⟩
  | cons next parts =>
    rw [toList_intercalate_cons_cons, hpart]
    exact ⟨c, _, rfl, hc⟩

theorem readValue_array {steps : Nat} {c : Char} (hblank : isBlank c = false) (hclose : c ≠ ']')
    (rest : List Char) : readValue (steps + 1) ('[' :: c :: rest) =
      (readItems steps (c :: rest)).map fun r => (.array r.1, r.2) := by
  have hopen : skipBlanks ('[' :: c :: rest) = '[' :: c :: rest := skipBlanks_cons rfl _
  have hfirst : skipBlanks (c :: rest) = c :: rest := skipBlanks_cons hblank rest
  simp only [readValue, hopen, hfirst]
  split
  · next hother =>
    cases hother
    exact absurd rfl hclose
  · rfl

theorem readsBack_array {items : List Json} (h : ∀ item ∈ items, item.ReadsBack) :
    ReadsBack (.array items) := by
  refine .of_succ fun steps rest hsteps _ => ?_
  rw [toList_render_array, List.length_cons, List.length_append] at hsteps
  rw [toList_render_array, List.cons_append, List.append_assoc, List.singleton_append]
  cases items with
  | nil => rfl
  | cons item others =>
    have hread := readItems_render (List.cons_ne_nil item others) h (Nat.lt_of_succ_le
      (Nat.le_of_succ_le_succ hsteps)) rest
    obtain ⟨c, more, hhead, hblank, hclose⟩ :=
      exists_head_intercalate item.exists_head_render (renderItems others)
    rw [renderItems, hhead, List.cons_append] at hread ⊢
    rw [readValue_array hblank hclose, hread, Option.map_some]

theorem toList_renderMember (member : Option String × Json) :
    (renderMember member).toList =
      (quote member.1).toList ++ ':' :: member.2.render.toList := by
  obtain ⟨key, value⟩ := member
  rw [renderMember, String.toList_append, String.toList_append, List.append_assoc]
  rfl

theorem exists_head_renderMember (member : Option String × Json) :
    ∃ c more, (renderMember member).toList = c :: more ∧ c = '"' := by
  obtain ⟨body, hquote, -⟩ := exists_readString_quote member.1
  rw [toList_renderMember, hquote]
  exact ⟨_, _, rfl, rfl⟩

theorem readMembers_quote (steps : Nat) (rest : List Char) :
    readMembers (steps + 1) ('"' :: rest) = (readString rest).bind fun key =>
      match skipBlanks key.2 with
        | ':' :: rest => (readValue steps rest).bind fun value =>
          match skipBlanks value.2 with
            | '\x7d' :: rest => some ([(key.1, value.1)], rest)
            | ',' :: rest => (readMembers steps rest).map fun r => ((key.1, value.1) :: r.1, r.2)
            | _ => none
        | _ => none := by
  rw [readMembers, skipBlanks_cons rfl]
  simp only [Option.map_eq_bind]
  rfl

/-- A member is read back from its text, before whatever its object goes on with. -/
theorem readMembers_member {member : Option String × Json} (h : member.2.ReadsBack) {steps : Nat}
    (hsteps : (renderMember member).toList.length ≤ steps) {rest : List Char}
    (hrest : Closes rest) :
    readMembers (steps + 1) ((renderMember member).toList ++ rest) =
      match skipBlanks rest with
        | '\x7d' :: rest => some ([member], rest)
        | ',' :: rest => (readMembers steps rest).map fun r => (member :: r.1, r.2)
        | _ => none := by
  obtain ⟨key, value⟩ := member
  obtain ⟨body, hquote, hkey⟩ := exists_readString_quote key
  rw [toList_renderMember, List.length_append, List.length_cons] at hsteps
  have hvalue := h steps rest (by omega) hrest
  rw [toList_renderMember, hquote, List.append_assoc, List.cons_append, List.cons_append,
    readMembers_quote, hkey, Option.bind_some]
  change ((readValue steps (value.render.toList ++ rest)).bind _) = _
  rw [hvalue, Option.bind_some]

/-- Members are read one by one up to the brace that closes them. -/
theorem readMembers_render {members : List (Option String × Json)} (hne : members ≠ [])
    (h : ∀ member ∈ members, member.2.ReadsBack) {steps : Nat}
    (hsteps : (",".intercalate (renderMembers members)).toList.length < steps)
    (rest : List Char) :
    readMembers steps ((",".intercalate (renderMembers members)).toList ++ '\x7d' :: rest) =
      some (members, rest) := by
  induction members generalizing steps with
  | nil => exact absurd rfl hne
  | cons member others ih =>
    obtain ⟨hmember, hothers⟩ := List.forall_mem_cons.mp h
    obtain ⟨steps, rfl⟩ : ∃ n, steps = n + 1 := ⟨steps - 1, by omega⟩
    cases others with
    | nil =>
      rw [renderMembers, renderMembers, String.intercalate_singleton] at hsteps ⊢
      rw [readMembers_member hmember (Nat.le_of_lt_succ hsteps)
        (closes_cons (.inr (.inr rfl)) rest)]
      rfl
    | cons next others =>
      have htext : (",".intercalate (renderMembers (member :: next :: others))).toList =
          (renderMember member).toList ++
            ',' :: (",".intercalate (renderMembers (next :: others))).toList := by
        rw [renderMembers, renderMembers, toList_intercalate_cons_cons, ← renderMembers]
      rw [htext, List.length_append, List.length_cons] at hsteps
      have hfewer : (",".intercalate (renderMembers (next :: others))).toList.length < steps := by
        omega
      have hmore := ih (List.cons_ne_nil next others) hothers hfewer
      rw [htext, List.append_assoc, List.cons_append,
        readMembers_member hmember (by omega) (closes_cons (.inl rfl) _)]
      change (readMembers steps _).map _ = _
      rw [hmore, Option.map_some]

theorem readValue_object (steps : Nat) (rest : List Char) :
    readValue (steps + 1) ('\x7b' :: '"' :: rest) =
      (readMembers steps ('"' :: rest)).map fun r => (.object r.1, r.2) := by
  rw [readValue, skipBlanks_cons rfl]
  rfl

theorem readsBack_object {members : List (Option String × Json)}
    (h : ∀ member ∈ members, member.2.ReadsBack) : ReadsBack (.object members) := by
  refine .of_succ fun steps rest hsteps _ => ?_
  rw [toList_render_object, List.length_cons, List.length_append] at hsteps
  rw [toList_render_object, List.cons_append, List.append_assoc, List.singleton_append]
  cases members with
  | nil => rfl
  | cons member others =>
    have hread := readMembers_render (List.cons_ne_nil member others) h (Nat.lt_of_succ_le
      (Nat.le_of_succ_le_succ hsteps)) rest
    obtain ⟨c, more, hhead, rfl⟩ := exists_head_intercalate (P := (· = '"'))
      (exists_head_renderMember member) (renderMembers others)
    rw [renderMembers, hhead, List.cons_append] at hread ⊢
    rw [readValue_object, hread, Option.map_some]

/-- By induction on a value: its parts are read back before what follows them in it. -/
theorem Exact.readsBack {value : Json} (h : value.Exact) : value.ReadsBack := by
  induction h with
  | null => exact readsBack_null
  | bool value => exact readsBack_bool value
  | number h => exact readsBack_number h
  | text content => exact readsBack_text content
  | array _ ih => exact readsBack_array ih
  | object _ ih => exact readsBack_object ih

/-- A value is read back from its text. -/
theorem read?_render {value : Json} (h : value.Exact) : read? value.render = some value := by
  have hread := h.readsBack (value.render.toList.length + 1) [] (Nat.le_succ _) closes_nil
  rw [List.append_nil] at hread
  rw [read?, hread]
  rfl

end RecordMapper.Json
