import RecordMapper.Decimal

/-!
# The shortest decimal of a number in binary

* `Decimal.Binary`: a positive number of the form `m * 2 ^ q`, with the gap to its lower neighbour.
* `Decimal.Binary.readsBack`: whether a decimal lies among the reals that round to the number.
* `Decimal.Binary.shortest`: the decimal of the fewest digits that reads back, and of several the
  nearest one.
* `Decimal.positional`: the text of a decimal without an exponent.
-/

namespace RecordMapper.Decimal

/-- The number `digits * 10 ^ scale`. -/
structure Scaled where
  digits : Nat
  scale : Int
deriving DecidableEq, Repr

/-- The magnitude `m * 2 ^ q` of a finite number of 64 bits. -/
structure Binary where
  m : Nat
  q : Int
  /-- Whether the next number below is only half as far away as the next one above. -/
  isNarrowBelow : Bool
deriving DecidableEq, Repr

namespace Binary

/-- The magnitude that the bits of a finite number stand for. -/
def ofBits (bits : UInt64) : Binary :=
  let exponent : Nat := bits.toNat / (1 <<< 52) % (1 <<< 11)
  let fraction : Nat := bits.toNat % (1 <<< 52)
  if exponent = 0 then { m := fraction, q := -1074, isNarrowBelow := false }
  else {
    m := (1 <<< 52) + fraction
    q := (exponent : Int) - 1075
    isNarrowBelow := fraction == 0 && 1 < exponent }

/-! ## Reading back -/

/-- The order of `a * 10 ^ i` and `n * 2 ^ j`. -/
def compareScaled (a : Nat) (i : Int) (n : Nat) (j : Int) : Ordering :=
  compare (a * Nat.pow 10 i.toNat * Nat.pow 2 (-j).toNat)
    (n * Nat.pow 2 j.toNat * Nat.pow 10 (-i).toNat)

/-- Whether a decimal rounds to the number: it lies between the middles of the gaps to the two
neighbours. The middles themselves round to the number if `m` is even. -/
def readsBack (number : Binary) (decimal : Scaled) : Bool :=
  let lower := if number.isNarrowBelow then 4 * number.m - 1 else 4 * number.m - 2
  let upper := 4 * number.m + 2
  let below := compareScaled decimal.digits decimal.scale lower (number.q - 2)
  let above := compareScaled decimal.digits decimal.scale upper (number.q - 2)
  if number.m % 2 = 0 then below != .lt && above != .gt else below == .gt && above == .lt

/-! ## Search -/

/-- The least `k` for which the number is below `10 ^ k`. The binary logarithm gives it up to
two. -/
def decade (number : Binary) : Int :=
  let least := (Int.ofNat number.m.log2 + number.q) * 30103 / 100000
  if compareScaled 1 least number.m number.q = .gt then least
  else if compareScaled 1 (least + 1) number.m number.q = .gt then least + 1
  else least + 2

/-- The number in units of `10 ^ scale`, rounded down. -/
def units (number : Binary) (scale : Int) : Nat :=
  number.m * Nat.pow 2 number.q.toNat * Nat.pow 10 (-scale).toNat /
    (Nat.pow 2 (-number.q).toNat * Nat.pow 10 scale.toNat)

/-- Of the two multiples of `10 ^ scale` around the number, that which reads back. If both do, it is
the nearer one, and the upper one if both are equally near. -/
def onGrid? (number : Binary) (scale : Int) : Option Scaled :=
  let lower : Scaled := ⟨number.units scale, scale⟩
  let upper : Scaled := ⟨number.units scale + 1, scale⟩
  match number.readsBack lower, number.readsBack upper with
  | true, true =>
    if compareScaled (lower.digits + upper.digits) scale (2 * number.m) number.q = .gt then
      some lower
    else some upper
  | true, false => some lower
  | false, true => some upper
  | false, false => none

/-- The number itself, as a decimal of as many digits as it takes. -/
def exact (number : Binary) : Scaled :=
  if 0 ≤ number.q then ⟨number.m * Nat.pow 2 number.q.toNat, 0⟩
  else ⟨number.m * Nat.pow 5 (-number.q).toNat, number.q⟩

/-- The most digits that are tried. They tell any two numbers of 64 bits apart. -/
def maxDigits : Nat := 17

/-- A decimal of the fewest digits that reads back as the number. -/
def shortest (number : Binary) : Scaled :=
  let grids := (List.range maxDigits).map fun n => number.decade - (n + 1 : Nat)
  (grids.findSome? number.onGrid?).getD number.exact

end Binary

/-! ## Text -/

/-- The digits of a decimal without zeros at their end, read from the last one. -/
def trimmed (decimal : Scaled) : List Char × Int :=
  let reversed := (ofNat decimal.digits).toList.reverse
  ((reversed.dropWhile (· == '0')).reverse,
    decimal.scale + (reversed.takeWhile (· == '0')).length)

/-- The text of a positive decimal without an exponent. There is a point only before a digit other
than zero. -/
def positional (decimal : Scaled) : String :=
  let (digits, scale) := trimmed decimal
  let whole := Int.ofNat digits.length + scale
  String.ofList <|
    if 0 ≤ scale then digits ++ List.replicate scale.toNat '0'
    else if 0 < whole then digits.take whole.toNat ++ '.' :: digits.drop whole.toNat
    else ['0', '.'] ++ List.replicate (-whole).toNat '0' ++ digits

end RecordMapper.Decimal
