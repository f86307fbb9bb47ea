/-
**Kinds of characters** that both of the formats here know.

* `isBlank`: the characters that separate things.
* `digitIn?`: the value of a digit in a base up to sixteen.
-/

namespace LaneChart.Text

/-- Whether a character only separates other things. -/
def isBlank (c : Char) : Bool := c = ' ' || c = '\n' || c = '\t' || c = '\r'

/-- The value of a digit in a base up to sixteen; letters count in either case. -/
def digitIn? (base : Nat) (c : Char) : Option Nat :=
  let value :=
    if c.isDigit then c.toNat - '0'.toNat
    else if 'a' ≤ c && c ≤ 'f' then c.toNat - 'a'.toNat + 10
    else if 'A' ≤ c && c ≤ 'F' then c.toNat - 'A'.toNat + 10
    else 16
  if value < base then some value else none

end LaneChart.Text
