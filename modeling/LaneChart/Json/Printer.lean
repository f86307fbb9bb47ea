/-
**JSON text.** Two forms of the same value: `compact` has no spaces at all, `pretty` gives every
item and every member a line of its own, two spaces further in than what holds it.

* `escapedChar`: in a text only the quote, the backslash and the controls below the space change.
* `Number.text`: a whole number in decimal digits, any other by `Number.layout`.
* `Json.compact`, `Json.pretty`: the two forms.
-/

import LaneChart.Decimal.Layout
import LaneChart.Json.Basic

namespace LaneChart.Json

/-- A hexadecimal digit, in lower case. -/
def hexDigit (n : Nat) : Char := (Nat.toDigits 16 n).headD '0'

/-- One character inside a JSON text. -/
def escapedChar (c : Char) : List Char :=
  if c = '"' then ['\\', '"']
  else if c = '\\' then ['\\', '\\']
  else if c.toNat < 32 then
    if c.toNat = 8 then ['\\', 'b']
    else if c = '\t' then ['\\', 't']
    else if c = '\n' then ['\\', 'n']
    else if c.toNat = 12 then ['\\', 'f']
    else if c = '\r' then ['\\', 'r']
    else ['\\', 'u', '0', '0', hexDigit (c.toNat / 16), hexDigit (c.toNat % 16)]
  else [c]

/-- A text with its quotes. -/
def printText (text : String) : List Char :=
  '"' :: text.toList.flatMap escapedChar ++ ['"']

/-- Numbers that are not whole are positional from `0.00001` up to below `10 ^ 16`, always show a
point there, and show the sign of every exponent. -/
def Number.layout : Decimal.Layout where
  lowest := -5
  highest := 15
  wholeTail := ['.', '0']
  plus := ['+']
  zero := ['0', '.', '0']
  notFinite := ['n', 'u', 'l', 'l']

/-- A whole number in decimal digits. -/
def printInt (value : Int) : List Char :=
  if value < 0 then '-' :: Nat.toDigits 10 value.natAbs else Nat.toDigits 10 value.natAbs

/-- A number. -/
def printNumber : Number → List Char
  | .whole value => printInt value
  | .real value => Number.layout.binary64 value

/-- The text of a number. -/
def Number.text (number : Number) : String := String.ofList (printNumber number)

/-- Values that hold no other value. -/
def printScalar : Json → List Char
  | .null => ['n', 'u', 'l', 'l']
  | .bool true => ['t', 'r', 'u', 'e']
  | .bool false => ['f', 'a', 'l', 's', 'e']
  | .number value => printNumber value
  | .text value => printText value
  | .list _ => ['[', ']']
  | .object _ => ['\x7b', '\x7d']

/-- A new line, so many levels in. -/
def newLine (level : Nat) : List Char := '\n' :: List.replicate (2 * level) ' '

mutual

/-- A value that starts so many levels in. -/
def printPretty (level : Nat) : Json → List Char
  | .list (item :: rest) =>
    '[' :: newLine (level + 1) ++ printPretty (level + 1) item ++ prettyItems (level + 1) rest ++
      newLine level ++ [']']
  | .object ((key, value) :: rest) =>
    '\x7b' :: newLine (level + 1) ++ printText key ++ [':', ' '] ++ printPretty (level + 1) value ++
      prettyMembers (level + 1) rest ++ newLine level ++ ['\x7d']
  | .list [] => printScalar (.list [])
  | .object [] => printScalar (.object [])
  | .null => printScalar .null
  | .bool value => printScalar (.bool value)
  | .number value => printScalar (.number value)
  | .text value => printScalar (.text value)
termination_by structural value => value

/-- The items of a list after the first one. -/
def prettyItems (level : Nat) : List Json → List Char
  | [] => []
  | item :: rest => ',' :: newLine level ++ printPretty level item ++ prettyItems level rest
termination_by structural items => items

/-- The members of an object after the first one. -/
def prettyMembers (level : Nat) : List (String × Json) → List Char
  | [] => []
  | (key, value) :: rest =>
    ',' :: newLine level ++ printText key ++ [':', ' '] ++ printPretty level value ++
      prettyMembers level rest
termination_by structural members => members

end

mutual

/-- A value without any spaces. -/
def printCompact : Json → List Char
  | .list (item :: rest) => '[' :: printCompact item ++ compactItems rest ++ [']']
  | .object ((key, value) :: rest) =>
    '\x7b' :: printText key ++ ':' :: printCompact value ++ compactMembers rest ++ ['\x7d']
  | .list [] => printScalar (.list [])
  | .object [] => printScalar (.object [])
  | .null => printScalar .null
  | .bool value => printScalar (.bool value)
  | .number value => printScalar (.number value)
  | .text value => printScalar (.text value)
termination_by structural value => value

/-- The items of a list after the first one. -/
def compactItems : List Json → List Char
  | [] => []
  | item :: rest => ',' :: printCompact item ++ compactItems rest
termination_by structural items => items

/-- The members of an object after the first one. -/
def compactMembers : List (String × Json) → List Char
  | [] => []
  | (key, value) :: rest =>
    ',' :: printText key ++ ':' :: printCompact value ++ compactMembers rest
termination_by structural members => members

end

/-- **One item and one member a line.** -/
def pretty (value : Json) : String := String.ofList (printPretty 0 value)

/-- **All on one line.** -/
def compact (value : Json) : String := String.ofList (printCompact value)

end LaneChart.Json
