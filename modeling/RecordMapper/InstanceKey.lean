import RecordMapper.Dialect
import RecordMapper.Text.Hex

/-!
# Instance keys

An instance key is a text of 36 characters: five groups of hexadecimal digits with hyphens between
them.

* `InstanceKey.isWellFormed`: whether a text is of this form, with digits of either case.
* `InstanceKey.ofNumber`: the key of a number of 128 bits, with digits of lower case.
* `InstanceKey.isWellFormed_ofNumber`: such a key is of this form.
-/

namespace RecordMapper.InstanceKey

/-- The numbers of digits in the groups. -/
def groups : List Nat := [8, 4, 4, 4, 12]

/-- What stands at each position: a digit where it is true, a hyphen elsewhere. -/
def layout : List Bool :=
  [false].intercalate (groups.map (List.replicate · true))

/-- Whether a text has digits and hyphens where a layout asks for them, and nothing else. -/
def fits : List Bool → List Char → Bool
  | [], [] => true
  | isDigit :: layout, c :: text =>
    (if isDigit then (Text.hexValue? c).isSome else c == '-') && fits layout text
  | _, _ => false

def isWellFormed (key : String) : Bool :=
  fits layout key.toList

/-! ## Keys of numbers -/

/-- The last hexadecimal digits of a number, in lower case. -/
def hexDigits : Nat → Nat → List Char
  | 0, _ => []
  | width + 1, number => hexDigits width (number / 16) ++ [Text.hexDigit number]

/-- Puts digits where a layout asks for them, and hyphens between them. -/
def fill : List Bool → List Char → List Char
  | true :: layout, c :: digits => c :: fill layout digits
  | false :: layout, digits => '-' :: fill layout digits
  | _, _ => []

/-- The instance key of a number. -/
def ofNumber (number : BitVec 128) : String :=
  String.ofList (fill layout (hexDigits 32 number.toNat))

theorem length_hexDigits (width number : Nat) : (hexDigits width number).length = width := by
  induction width generalizing number with
  | zero => rfl
  | succ width ih => simp [hexDigits, ih]

theorem isSome_of_mem_hexDigits {width number : Nat} {c : Char} (h : c ∈ hexDigits width number) :
    (Text.hexValue? c).isSome := by
  induction width generalizing number with
  | zero => cases h
  | succ width ih =>
    rcases List.mem_append.mp h with hmore | hlast
    · exact ih hmore
    · rw [List.mem_singleton.mp hlast, Text.hexValue?_hexDigit]
      rfl

/-- A layout that is filled with digits, one for each place, is fitted. -/
theorem fits_fill {layout : List Bool} {digits : List Char}
    (hlength : digits.length = layout.count true)
    (hdigits : ∀ c ∈ digits, (Text.hexValue? c).isSome) :
    fits layout (fill layout digits) = true := by
  induction layout generalizing digits with
  | nil => rfl
  | cons isDigit layout ih =>
    cases isDigit with
    | false => exact ih (by simpa using hlength) hdigits
    | true =>
      cases digits with
      | nil => simp at hlength
      | cons c digits =>
        have hrest := ih (by simpa using hlength) fun c hc => hdigits c (List.mem_cons_of_mem _ hc)
        rw [fill, fits, if_pos rfl, hdigits c List.mem_cons_self, hrest]
        rfl

/-- The key of a number has the form of one. -/
theorem isWellFormed_ofNumber (number : BitVec 128) : isWellFormed (ofNumber number) = true := by
  have hcount : layout.count true = 32 := by decide
  rw [isWellFormed, ofNumber, String.toList_ofList]
  exact fits_fill (by rw [length_hexDigits, hcount]) fun _ hc => isSome_of_mem_hexDigits hc

end RecordMapper.InstanceKey
