/-!
# The shortest decimal of a binary number

A finite binary number `m * 2 ^ q` stands for all reals that round to it. Of the
decimals among them, the shortest are those with the fewest digits, and the
shortest decimal is the one of these that is nearest to the number; of two that
are equally near, the larger.

* `Decimal`: a number `digits * 10 ^ exponent`;
* `shortest`: the shortest decimal of a binary number.
-/

namespace QueryTemplate

/-- The decimal `digits * 10 ^ exponent`. -/
structure Decimal where
  /-- The digits, read as a whole number. -/
  digits : Nat
  /-- The power of ten that the digits are multiplied by. -/
  exponent : Int
deriving DecidableEq

namespace Decimal

/-- The number of decimal digits of `n`. -/
def width (n : Nat) : Nat :=
  (Nat.toDigits 10 n).length

/-- The decimal without zeros at the end of its digits; at most `fuel` of them are dropped. -/
def dropZeros : (fuel : Nat) → Decimal → Decimal
  | 0, d => d
  | fuel + 1, d =>
    if d.digits ≠ 0 && d.digits % 10 == 0 then dropZeros fuel ⟨d.digits / 10, d.exponent + 1⟩
    else d

/-- A binary number with its neighbourhood, over a common denominator: the reals
    between `low` and `high` round to `value`. -/
structure Neighbourhood where
  /-- The least real that rounds to the number. -/
  low : Nat
  /-- The number. -/
  value : Nat
  /-- The greatest real that rounds to the number. -/
  high : Nat
  /-- The common denominator. -/
  den : Nat
  /-- Whether the two ends round to the number, too. -/
  closed : Bool

/-- The neighbourhood of `m * 2 ^ q`. Below a power of two the next smaller number
    is half as far away as the next larger one: `atPower` says that this is so here. -/
def Neighbourhood.ofBinary (m : Nat) (q : Int) (atPower : Bool) : Neighbourhood :=
  -- All three are counted in quarters of a unit in the last place.
  let scale := Nat.pow 2 (q - 2).toNat
  { low := (4 * m - if atPower then 1 else 2) * scale
    value := 4 * m * scale
    high := (4 * m + 2) * scale
    den := Nat.pow 2 (2 - q).toNat
    closed := m % 2 == 0 }

namespace Neighbourhood

/-- Whether the decimal `d` lies in the neighbourhood. -/
def contains (b : Neighbourhood) (d : Decimal) : Bool :=
  let x := d.digits * Nat.pow 10 d.exponent.toNat * b.den
  let unit := Nat.pow 10 (-d.exponent).toNat
  if b.closed then b.low * unit ≤ x && x ≤ b.high * unit
  else b.low * unit < x && x < b.high * unit

/-- The number of digits before the decimal point of the value; for a value below
    one, minus the number of zeros after it. No binary number is smaller than
    `10 ^ -400`. -/
def magnitude (b : Neighbourhood) : Int :=
  width (b.value * Nat.pow 10 400 / b.den) - 400

/-- The decimal in the neighbourhood with the exponent `e` that is nearest to the
    value, the larger of two, if there is any. -/
def nearest (b : Neighbourhood) (e : Int) : Option Decimal :=
  let up := Nat.pow 10 (-e).toNat
  let down := Nat.pow 10 e.toNat
  let below := b.value * up / (b.den * down)
  let low : Decimal := ⟨below, e⟩
  let high : Decimal := ⟨below + 1, e⟩
  match b.contains low, b.contains high with
  | false, false => none
  | true, false => some low
  | false, true => some high
  | true, true =>
    -- The value lies in the upper half of the gap, or in its middle.
    if (2 * below + 1) * (b.den * down) ≤ 2 * (b.value * up) then some high else some low

end Neighbourhood

/-- The shortest decimal of the positive number `m * 2 ^ q`: seventeen digits always do. -/
def shortest (m : Nat) (q : Int) (atPower : Bool) : Decimal :=
  let b := Neighbourhood.ofBinary m q atPower
  let magnitude := b.magnitude
  let found := (List.range 17).findSome? fun (n : Nat) => b.nearest (magnitude - (n + 1))
  dropZeros 20 (found.getD ⟨0, 0⟩)

end Decimal

end QueryTemplate
