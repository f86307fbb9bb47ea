/-
**Text between quotes, as a message shows it.** Six characters have short escapes, hidden ones are
written as their number in braces, and everything else stands for itself.

* `quotedChar`: what one character becomes.
* `quoted`: a whole text with its quotes.
-/

import LaneChart.Text.Hidden

namespace LaneChart.Text

/-- One character of a quoted text. -/
def quotedChar (c : Char) : List Char :=
  if c = '\x00' then ['\\', '0']
  else if c = '\t' then ['\\', 't']
  else if c = '\r' then ['\\', 'r']
  else if c = '\n' then ['\\', 'n']
  else if c = '"' then ['\\', '"']
  else if c = '\\' then ['\\', '\\']
  else if isHidden c then ['\\', 'u', '\x7b'] ++ Nat.toDigits 16 c.toNat ++ ['\x7d']
  else [c]

/-- A text with quotes around it. -/
def quoted (text : String) : String :=
  String.ofList ('"' :: text.toList.flatMap quotedChar ++ ['"'])

end LaneChart.Text
