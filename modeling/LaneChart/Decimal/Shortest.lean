/-
**The shortest decimal that reads back.** A binary number stands for every real that rounds to it.
Among the decimals in that interval the ones with the fewest digits are wanted, and of these the
nearest to the number itself.

* `Binary`: a positive number `mantissa · 2 ^ exponent` and the interval that rounds to it,
  measured in quarters of `2 ^ exponent`; the ends belong to the interval exactly when the
  mantissa is even.
* `Scientific`: a decimal `digits · 10 ^ power`.
* `shortest`: for one digit, two digits and so on the two neighbours of the number on that decimal
  grid are tried; seventeen digits always suffice.

All comparisons are made between natural numbers, so no step rounds.
-/

namespace LaneChart.Decimal

/-- **A positive binary number** with its rounding interval: everything from `below` quarters
under it to two quarters over it. -/
structure Binary where
  mantissa : Nat
  exponent : Int
  below : Nat
deriving Repr, DecidableEq

/-- A decimal `digits · 10 ^ power`. -/
structure Scientific where
  digits : Nat
  power : Int
deriving Repr, DecidableEq

namespace Binary

/-- The magnitude held in the bits of a binary64 number: absent for zero and for what is not
finite. Just above a power of two the numbers below lie half as far apart as the numbers above. -/
def ofBits? (bits : UInt64) : Option Binary :=
  let fraction : Nat := bits.toNat % Nat.pow 2 52
  let biased : Nat := bits.toNat / Nat.pow 2 52 % Nat.pow 2 11
  if biased = 2047 then none
  else if biased = 0 then
    if fraction = 0 then none else some ⟨fraction, -1074, 2⟩
  else
    some ⟨Nat.pow 2 52 + fraction, (biased : Int) - 1075,
      if fraction = 0 && biased > 1 then 1 else 2⟩

/-- Four times the mantissa: the number itself in quarters. -/
def quarters (x : Binary) : Nat := 4 * x.mantissa

/-- `count · 10 ^ power`, on the scale on which `onScale` measures quarters. -/
def decimalOnScale (x : Binary) (count : Nat) (power : Int) : Nat :=
  count * Nat.pow 10 power.toNat * Nat.pow 2 (2 - x.exponent).toNat

/-- A number of quarters, on the scale on which `decimalOnScale` measures decimals. -/
def onScale (x : Binary) (quarters : Nat) (power : Int) : Nat :=
  quarters * Nat.pow 2 (x.exponent - 2).toNat * Nat.pow 10 (-power).toNat

/-- Whether `count · 10 ^ power` rounds to the number. -/
def accepts (x : Binary) (count : Nat) (power : Int) : Bool :=
  let lower := x.onScale (x.quarters - x.below) power
  let upper := x.onScale (x.quarters + 2) power
  let value := x.decimalOnScale count power
  if x.mantissa % 2 = 0 then lower ≤ value && value ≤ upper else lower < value && value < upper

/-- How many steps of `10 ^ power` fit below the number. -/
def stepsBelow (x : Binary) (power : Int) : Nat :=
  x.onScale x.quarters power / x.decimalOnScale 1 power

/-- The power of ten of the leading digit. Scaling by `10 ^ 400` makes every binary64 number
exceed one, so the digits of the whole part can be counted. -/
def leadingPower (x : Binary) : Int :=
  ((Nat.toDigits 10 (x.stepsBelow (-400))).length : Int) - 401

/-- The neighbour of the number on the grid of `10 ^ power` that rounds to it: the nearer one when
both do, and the even one when they are equally near. -/
def onGrid? (x : Binary) (power : Int) : Option Nat :=
  let low := x.stepsBelow power
  let step := x.decimalOnScale 1 power
  let past := x.onScale x.quarters power % step
  let lowFirst := 2 * past < step || (2 * past == step && low % 2 == 0)
  match x.accepts low power, x.accepts (low + 1) power with
  | true, true => some (if lowFirst then low else low + 1)
  | true, false => some low
  | false, true => some (low + 1)
  | false, false => none

end Binary

/-- Moves the zeros at the end of the digits into the power; the first argument bounds their
number. -/
def Scientific.trim : Nat → Scientific → Scientific
  | 0, d => d
  | fuel + 1, d =>
    if d.digits ≠ 0 && d.digits % 10 == 0 then trim fuel ⟨d.digits / 10, d.power + 1⟩ else d

/-- Tries grids from coarse to fine. -/
def shortestFrom (x : Binary) : Nat → Int → Scientific
  | 0, power => ⟨x.stepsBelow power, power⟩
  | more + 1, power =>
    match x.onGrid? power with
    | some digits => Scientific.trim 17 ⟨digits, power⟩
    | none => shortestFrom x more (power - 1)

/-- **The shortest decimal that rounds to the number,** nearest first. -/
def shortest (x : Binary) : Scientific := shortestFrom x 17 x.leadingPower

end LaneChart.Decimal
