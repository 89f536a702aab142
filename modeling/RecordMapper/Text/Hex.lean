/-!
# Hexadecimal digits

* `Text.hexDigit`: the digit of a number, in lower case.
* `Text.hexValue?`: the number of a digit, of either case.
* `Text.hexNumber?`: the number of several digits.
* `Text.hexBytes?`: the bytes of pairs of digits.
-/

namespace RecordMapper.Text

def hexDigit (n : Nat) : Char := Nat.digitChar (n % 16)

def hexValue? (c : Char) : Option Nat :=
  if c.isDigit then some (c.toNat - '0'.toNat)
  else if 'a' ≤ c ∧ c ≤ 'f' then some (c.toNat - 'a'.toNat + 10)
  else if 'A' ≤ c ∧ c ≤ 'F' then some (c.toNat - 'A'.toNat + 10)
  else none

/-- The number of some hexadecimal digits. -/
def hexNumber? (digits : List Char) : Option Nat :=
  digits.foldlM (fun n c => (16 * n + ·) <$> hexValue? c) 0

/-- The bytes of pairs of hexadecimal digits. A digit that is left over is passed over. -/
def hexBytes? : List Char → Option (List UInt8)
  | a :: b :: rest => do
    return UInt8.ofNat (← hexNumber? [a, b]) :: (← hexBytes? rest)
  | _ => some []

theorem hexValue?_hexDigit (n : Nat) : hexValue? (hexDigit n) = some (n % 16) := by
  have h : ∀ d : Fin 16, hexValue? (Nat.digitChar d.val) = some d.val := by decide
  exact h ⟨n % 16, Nat.mod_lt n (by decide)⟩

end RecordMapper.Text
