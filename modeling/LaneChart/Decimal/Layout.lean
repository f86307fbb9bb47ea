/-
**Writing a decimal.** What the digits are is settled elsewhere (`Decimal.Shortest`); here they
are put on paper by a format that says which powers are written positionally and how the rest
looks.

* `Layout`: the decisions of a format.
* `Layout.write`: the text of a positive decimal.
* `Layout.binary64`: the text of a binary64 number with its sign.
-/

import LaneChart.Decimal.Shortest

namespace LaneChart.Decimal

/-- **A number format.** A leading digit with a power from `lowest` to `highest` is written
positionally, any other with an exponent. -/
structure Layout where
  lowest : Int
  highest : Int
  /-- what follows a number that has no digits after the point -/
  wholeTail : List Char
  /-- what stands in front of an exponent that is not negative -/
  plus : List Char
  zero : List Char
  /-- what stands for a number that is not finite -/
  notFinite : List Char
deriving Repr, DecidableEq

namespace Layout

/-- Digits with a point after the one whose power is zero. -/
def positional (layout : Layout) (digits : List Char) (power : Int) : List Char :=
  if power < 0 then
    ['0', '.'] ++ List.replicate ((-power).toNat - 1) '0' ++ digits
  else
    let whole := power.toNat + 1
    let fraction := digits.drop whole
    digits.take whole ++ List.replicate (whole - digits.length) '0' ++
      (if fraction.isEmpty then layout.wholeTail else '.' :: fraction)

/-- Digits with a point after the first one, and the power of the first one. -/
def withExponent (layout : Layout) (digits : List Char) (power : Int) : List Char :=
  let fraction := digits.drop 1
  digits.take 1 ++ (if fraction.isEmpty then [] else '.' :: fraction) ++ ['e'] ++
    (if power < 0 then ['-'] else layout.plus) ++ Nat.toDigits 10 power.natAbs

/-- The text of a positive decimal. -/
def write (layout : Layout) (value : Scientific) : List Char :=
  let digits := Nat.toDigits 10 value.digits
  let power := value.power + digits.length - 1
  if layout.lowest ≤ power && power ≤ layout.highest then layout.positional digits power
  else layout.withExponent digits power

/-- **The text of a binary64 number:** the shortest digits that read back, in this format. -/
def binary64 (layout : Layout) (x : Float) : List Char :=
  let bits := x.toBits
  let sign := if bits.toNat / Nat.pow 2 63 = 1 then ['-'] else []
  match Binary.ofBits? bits with
  | some magnitude => sign ++ layout.write (shortest magnitude)
  | none => if bits.toNat % Nat.pow 2 63 = 0 then sign ++ layout.zero else layout.notFinite

end Layout

end LaneChart.Decimal
