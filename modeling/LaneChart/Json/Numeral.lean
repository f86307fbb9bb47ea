/-
**The value of a number as it is written.** A whole number that fits 64 bits keeps its value. Any
other number becomes a binary64 one, and only approximately: as many leading digits as fit 64 bits
are taken, and they are scaled by a power of ten in one multiplication or division.

* `Numeral.absorb`: the digits that fit.
* `Numeral.scale`: the scaling; absent when the result is too large.
* `Numeral.value`: the value. When it is out of range, the number of exponent digits that were not
  looked at any more is given instead.
-/

import LaneChart.Json.Scan

namespace LaneChart.Json.Numeral

/-- The value of a decimal digit. -/
def digitValue (c : Char) : Nat := c.toNat - '0'.toNat

/-- Appends digits to a number as long as it stays within a limit; gives back the number and the
digits that were dropped. -/
def absorb (limit : Nat) : Nat → List Char → Nat × List Char
  | value, [] => (value, [])
  | value, digit :: rest =>
    if value * 10 + digitValue digit ≤ limit then absorb limit (value * 10 + digitValue digit) rest
    else (value, digit :: rest)

/-- The largest number whose digits are taken. -/
def digitLimit : Nat := Nat.pow 2 64 - 1

/-- The largest exponent that may be written. -/
def exponentLimit : Nat := Nat.pow 2 31 - 1

/-- `10 ^ power` as a binary64 number, for powers up to 308. -/
def powerOfTen (power : Nat) : Float := Float.ofScientific 1 false power

/-- Divides by `10 ^ power`, at most `10 ^ 308` at a time. -/
def shrink (value : Float) (power : Nat) : Float :=
  if power ≤ 308 then value / powerOfTen power
  else if value == 0 then value
  else shrink (value / powerOfTen 308) (power - 308)
termination_by power

/-- Scales by a power of ten; absent when the result would be infinite. -/
def scale (value : Float) (power : Int) : Option Float :=
  if power < 0 then some (shrink value power.natAbs)
  else if power ≤ 308 then
    let scaled := value * powerOfTen power.toNat
    if scaled.isInf then none else some scaled
  else if value == 0 then some value
  else none

/-- A magnitude with a sign. -/
def signed (negative : Bool) (value : Float) : Number := .real (if negative then -value else value)

/-- The value of digits without a point and an exponent that all fit. -/
def wholeValue (negative : Bool) (magnitude : Nat) : Number :=
  if !negative then .whole magnitude
  else if magnitude ≠ 0 && magnitude ≤ Nat.pow 2 63 then .whole (-(magnitude : Int))
  else signed true magnitude.toUInt64.toFloat

/-- The value of a number with a point, an exponent or too many digits. -/
def realValue (negative : Bool) (magnitude : Nat) (power : Int) : Except Nat Number :=
  match scale magnitude.toUInt64.toFloat power with
  | some value => .ok (signed negative value)
  | none => .error 0

/-- **The value of a number,** or the number of exponent digits that are left when it is known to
be out of range. -/
def value (numeral : Numeral) : Except Nat Number :=
  let (whole, dropped) := absorb digitLimit 0 numeral.whole
  let fraction := numeral.fraction.getD []
  let (magnitude, unused) := absorb digitLimit whole fraction
  let power : Int := (dropped.length : Int) - ((fraction.length : Int) - unused.length)
  match numeral.exponent with
  | none =>
    if numeral.fraction.isNone && dropped.isEmpty then .ok (wholeValue numeral.negative whole)
    else realValue numeral.negative magnitude power
  | some (negative, digits) =>
    match absorb exponentLimit 0 digits with
    | (exponent, []) =>
      realValue numeral.negative magnitude (if negative then power - exponent else power + exponent)
    | (_, _ :: left) =>
      if magnitude ≠ 0 && !negative then .error left.length
      else .ok (signed numeral.negative 0)

end LaneChart.Json.Numeral
