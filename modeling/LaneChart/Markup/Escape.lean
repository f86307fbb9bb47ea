/-
**Text inside XML.** Characters that mean something in markup, and white space that an attribute
would lose, become references; characters that XML cannot carry at all are dropped.

* `isCarried`: the characters that XML can carry.
* `escapeChar`, `escape`: a character and a text inside markup.
-/

namespace LaneChart.Markup

/-- Whether XML can carry a character. -/
def isCarried (c : Char) : Bool :=
  c = '\t' || c = '\n' || c = '\r' || (32 ≤ c.toNat && c.toNat ≠ 0xFFFE && c.toNat ≠ 0xFFFF)

/-- What a character becomes inside markup. -/
def escapeChar (c : Char) : List Char :=
  if c = '&' then ['&', 'a', 'm', 'p', ';']
  else if c = '<' then ['&', 'l', 't', ';']
  else if c = '>' then ['&', 'g', 't', ';']
  else if c = '"' then ['&', 'q', 'u', 'o', 't', ';']
  else if c = '\x27' then ['&', 'a', 'p', 'o', 's', ';']
  else if c = '\n' then ['&', '#', '1', '0', ';']
  else if c = '\r' then ['&', '#', '1', '3', ';']
  else if c = '\t' then ['&', '#', '9', ';']
  else if isCarried c then [c]
  else []

/-- **A text inside markup.** -/
def escape (text : String) : List Char := text.toList.flatMap escapeChar

end LaneChart.Markup
