import RecordMapper.Database.Datum
import RecordMapper.Proofs.Decimal
import RecordMapper.Schema.Lookup

/-!
# Numbers in stored texts

* `ValueType.Holds`, `ValueType.Spells`: the numbers that a type has, and the texts that stand for a
  number in it.
* `ValueType.FirstFault`: the first thing that is wrong with a text as a number of a type.
* `ColumnKind.read_eq_ok`, `ColumnKind.read_eq_error`: what a column of numbers reads, and what it
  refuses.
* `ColumnKind.readsNumbers`: it reads exactly the numbers that it has.
-/

namespace RecordMapper

/-! ## Numerals of a type -/

namespace ValueType

/-- The numbers that a type has: those of 32 bits, with or without a sign. -/
def Holds : ValueType → Int → Prop
  | .int32, n => -2147483648 ≤ n ∧ n < 2147483648
  | .uint32, n => 0 ≤ n ∧ n < 4294967296
  | .text, _ => False

/-- Digits after at most one sign, which is a minus only for a type with negative numbers. -/
def Spells (type : ValueType) (text : List Char) (n : Int) : Prop :=
  Decimal.Numeral text n ∧ (text.head? = some '-' → type = .int32)

/-- The first thing that is wrong with a text as a number of a type. -/
def FirstFault : ValueType → List Char → IntegerFault → Prop
  | .int32 => Decimal.FirstFault (some 2147483648) 2147483647
  | .uint32 => Decimal.FirstFault none 4294967295
  | .text => fun _ _ => False

theorem spells_ofInt {type : ValueType} {n : Int} (h : type.Holds n) :
    type.Spells (Decimal.ofInt n).toList n := by
  refine ⟨Decimal.numeral_ofInt n, fun hminus => ?_⟩
  cases type with
  | int32 => rfl
  | uint32 =>
    obtain ⟨m, rfl⟩ := Int.eq_ofNat_of_zero_le h.1
    exact absurd hminus
      (Decimal.head?_ne_of_digits (fun _ hc => Decimal.isDigit_of_mem_ofNat hc) (by decide))
  | text => exact h.elim

end ValueType

namespace Value

/-- The values of a type are its numbers. -/
theorem exists_number_iff {type : ValueType} {n : Int} :
    (∃ value : Value, value.type = type ∧ value.literal = .integer n) ↔ type.Holds n := by
  constructor
  · rintro ⟨value, rfl, hliteral⟩
    cases value with
    | int32 number =>
      cases hliteral
      exact ⟨number.le_toInt, number.toInt_lt⟩
    | uint32 number =>
      cases hliteral
      exact ⟨Int.natCast_nonneg _, Int.ofNat_lt.mpr number.toNat_lt⟩
    | text => cases hliteral
  · intro h
    cases type with
    | int32 => exact ⟨.int32 (.ofInt n), rfl, congrArg _ (Int32.toInt_ofInt_of_le h.1 h.2)⟩
    | uint32 =>
      obtain ⟨m, rfl⟩ := Int.eq_ofNat_of_zero_le h.1
      have hlt : m < UInt32.size := Int.ofNat_lt.mp h.2
      exact ⟨.uint32 (.ofNat m), rfl,
        congrArg (fun k : Nat => Literal.integer k) (UInt32.toNat_ofNat_of_lt' hlt)⟩
    | text => exact h.elim

theorem display_of_literal {value : Value} {n : Int} (h : value.literal = .integer n) :
    value.display = Decimal.ofInt n := by
  cases value <;> cases h <;> rfl

theorem exists_literal_eq {value : Value} (h : value.type ≠ .text) :
    ∃ n, value.literal = .integer n := by
  cases value with
  | int32 | uint32 => exact ⟨_, rfl⟩
  | text => exact absurd rfl h

end Value

/-! ## Columns of numbers -/

namespace ColumnKind

variable {kind : ColumnKind}

/-- What is read is the value of the type with the number for which the text stands. -/
theorem read_eq_ok (hkind : kind.valueType ≠ .text) {text : String} {value : Value} :
    kind.read text = .ok value ↔ value.type = kind.valueType ∧
      ∃ n, value.literal = .integer n ∧ kind.valueType.Spells text.toList n := by
  cases kind with
  | int32 =>
    rw [read]
    constructor
    · intro h
      split at h
      · next number hread =>
        cases h
        exact ⟨rfl, _, rfl, Decimal.readInt32_eq_ok.mp hread, fun _ => rfl⟩
      · cases h
    · rintro ⟨htype, n, hliteral, hnumeral, -⟩
      cases value with
      | int32 number =>
        cases hliteral
        rw [Decimal.readInt32_eq_ok.mpr hnumeral]
      | uint32 | text => cases htype
  | primary | uint32 =>
    rw [read]
    constructor
    · intro h
      split at h
      · next number hread =>
        cases h
        obtain ⟨hnumeral, hminus⟩ := Decimal.readUInt32_eq_ok.mp hread
        exact ⟨rfl, _, rfl, hnumeral, fun hhead => absurd hhead hminus⟩
      · cases h
    · rintro ⟨htype, n, hliteral, hnumeral, hminus⟩
      cases value with
      | uint32 number =>
        cases hliteral
        rw [Decimal.readUInt32_eq_ok.mpr ⟨hnumeral, fun hhead => nomatch hminus hhead⟩]
      | int32 | text => cases htype
  | varchar => exact absurd rfl hkind

/-- What is refused is reported by what is wrong with it first. -/
theorem read_eq_error (hkind : kind.valueType ≠ .text) {text : String} {fault : TextFault} :
    kind.read text = .error fault ↔ ∃ cause, kind.valueType.FirstFault text.toList cause ∧
      fault = .notInteger kind.valueType text cause := by
  cases kind with
  | int32 =>
    simp only [read, valueType, ValueType.FirstFault, ← Decimal.readInt32_eq_error]
    cases Decimal.readInt32 text <;> simp [eq_comm]
  | primary | uint32 =>
    simp only [read, valueType, ValueType.FirstFault, ← Decimal.readUInt32_eq_error]
    cases Decimal.readUInt32 text <;> simp [eq_comm]
  | varchar => exact absurd rfl hkind

/-- What it means that a column reads the numbers that it has, and nothing else. -/
structure ReadsNumbers (kind : ColumnKind) : Prop where
  /-- A text is read as a number exactly if it stands for it, and the type has it. -/
  number_iff : ∀ text n, (∃ value, kind.read text = .ok value ∧ value.literal = .integer n) ↔
    kind.valueType.Spells text.toList n ∧ kind.valueType.Holds n
  typed : ∀ text value, kind.read text = .ok value → value.type = kind.valueType
  /-- Any other text is refused. -/
  refused : ∀ text : String, (∀ n, kind.valueType.Spells text.toList n → ¬ kind.valueType.Holds n) →
    ∃ fault, kind.read text = .error fault
  /-- What is reported is what is wrong first. -/
  fault_iff : ∀ text fault, kind.read text = .error fault ↔
    ∃ cause, kind.valueType.FirstFault text.toList cause ∧
      fault = .notInteger kind.valueType text cause
  runtime : ∀ text fault, (kind.read text).mapError Fault.storedText = .error fault →
    fault.kind = .runtime
  display : ∀ value, kind.accepts value → kind.read value.display = .ok value
  /-- A number that the database holds is read exactly if the type has it. -/
  stored : ∀ (column : String) (m : Int64), ∃ text,
    Database.Datum.render column (.integer m) = .ok (some text) ∧
    (kind.valueType.Holds m.toInt →
      ∃ value, kind.read text = .ok value ∧ value.literal = .integer m.toInt) ∧
    (¬ kind.valueType.Holds m.toInt → ∃ fault, kind.read text = .error fault)

section ReadsNumbers

variable (hkind : kind.valueType ≠ .text)

include hkind

theorem read_number_iff (text : String) (n : Int) :
    (∃ value, kind.read text = .ok value ∧ value.literal = .integer n) ↔
      kind.valueType.Spells text.toList n ∧ kind.valueType.Holds n := by
  rw [← Value.exists_number_iff]
  constructor
  · rintro ⟨value, hread, hliteral⟩
    obtain ⟨htype, m, hm, hspells⟩ := (read_eq_ok hkind).mp hread
    cases hliteral.symm.trans hm
    exact ⟨hspells, value, htype, hliteral⟩
  · rintro ⟨hspells, value, htype, hliteral⟩
    exact ⟨value, (read_eq_ok hkind).mpr ⟨htype, n, hliteral, hspells⟩, hliteral⟩

theorem exists_read_eq_error (text : String)
    (h : ∀ n, kind.valueType.Spells text.toList n → ¬ kind.valueType.Holds n) :
    ∃ fault, kind.read text = .error fault := by
  cases hread : kind.read text with
  | error fault => exact ⟨fault, rfl⟩
  | ok value =>
    obtain ⟨htype, n, hliteral, hspells⟩ := (read_eq_ok hkind).mp hread
    exact absurd (Value.exists_number_iff.mp ⟨value, htype, hliteral⟩) (h n hspells)

theorem read_display (value : Value) (h : kind.accepts value) :
    kind.read value.display = .ok value := by
  have htype : value.type = kind.valueType := beq_iff_eq.mp h
  obtain ⟨n, hliteral⟩ := Value.exists_literal_eq (htype ▸ hkind)
  have hholds := Value.exists_number_iff.mp ⟨value, htype, hliteral⟩
  rw [Value.display_of_literal hliteral]
  exact (read_eq_ok hkind).mpr ⟨htype, n, hliteral, ValueType.spells_ofInt hholds⟩

/-- Among the columns, those of numbers read exactly the numbers that they have: of all texts, of
their own values, and of the numbers in a database. -/
theorem readsNumbers : kind.ReadsNumbers where
  number_iff := read_number_iff hkind
  typed _ _ h := ((read_eq_ok hkind).mp h).1
  refused := exists_read_eq_error hkind
  fault_iff _ _ := read_eq_error hkind
  runtime text fault h := by
    cases hread : kind.read text with
    | ok value => rw [hread] at h; cases h
    | error cause => rw [hread] at h; cases h; rfl
  display := read_display hkind
  stored column m := by
    refine ⟨Decimal.ofInt m.toInt, rfl, fun hholds => ?_, fun hholds => ?_⟩
    · exact (read_number_iff hkind _ _).mpr ⟨ValueType.spells_ofInt hholds, hholds⟩
    · refine exists_read_eq_error hkind _ fun n hspells => ?_
      rwa [hspells.1.unique (Decimal.numeral_ofInt m.toInt)]

end ReadsNumbers

/-- The least number is read. Of the text of the number above the greatest, the last digit is what
is wrong, also if a letter follows it, but not if one comes before. -/
theorem readsNumbers_int32 :
    int32.valueType ≠ .text ∧ ValueType.int32.Spells "-2147483648".toList (-2147483648) ∧
      (∃ fault, int32.read "2147483648" = .error fault) ∧
      ValueType.int32.FirstFault "2147483648x".toList .tooLarge ∧
      ValueType.int32.FirstFault "214748364x8".toList .invalidDigit := by
  have hkind : int32.valueType ≠ .text := by decide
  have hreads := readsNumbers hkind
  have hspells := (hreads.number_iff "-2147483648" (-2147483648)).mp ⟨_, rfl, rfl⟩
  have htooLarge := (hreads.fault_iff "2147483648x" _).mp rfl
  have hletter := (hreads.fault_iff "214748364x8" _).mp rfl
  obtain ⟨text, hrender, -, hbeyond⟩ := hreads.stored "age" 2147483648
  cases hrender
  obtain ⟨-, htooLarge, ⟨⟩⟩ := htooLarge
  obtain ⟨-, hletter, ⟨⟩⟩ := hletter
  exact ⟨hkind, hspells.1, hbeyond fun h => absurd h.2 (by decide), htooLarge, hletter⟩

end ColumnKind

end RecordMapper
