/-
**Reading the pieces of JSON text.** A reader takes the text that is left and gives back a result
with the text left after it, or a fault. A fault is either *here*, where the unread text begins,
or *at the next byte*, just past the first unread one; a byte that is found wrong after it was
taken is a fault at the next byte as well, so nothing has to be put back.

* `Reader`, `failHere`, `failNext`: results and faults.
* `word`, `Numeral.scan`, `readQuoted`: a fixed word, a number as it is written, a text.
* `skipQuoted`: a text whose content is not wanted.
-/

import LaneChart.Json.Fault
import LaneChart.Text.Chars

namespace LaneChart.Json

/-- **A reader** of a result from the front of a text. -/
abbrev Reader (α : Type) := StateT (List Char) (Except Fault) α

/-- A fault where the unread text begins. -/
def failHere {α : Type} (cause : Cause) : Reader α :=
  fun rest => .error ⟨cause, Text.utf8Length rest⟩

/-- A fault just past the first unread byte, or at the end of the text when there is none. -/
def failNext {α : Type} (cause : Cause) : Reader α :=
  fun rest => .error ⟨cause, Text.utf8Length rest - 1⟩

/-- Passes over blanks. -/
def skipBlanks : Reader Unit := fun rest => .ok ((), rest.dropWhile Text.isBlank)

/-- Passes over blanks and shows the character that comes next. -/
def nextVisible : Reader (Option Char) := fun rest =>
  let rest := rest.dropWhile Text.isBlank
  .ok (rest.head?, rest)

/-- Takes the next character. -/
def takeChar : Reader Unit := fun rest => .ok ((), rest.tail)

/-! ### Words -/

/-- Takes the letters of a word one by one. -/
def word : List Char → Reader Unit
  | [], rest => .ok ((), rest)
  | _ :: _, [] => failHere .endInValue []
  | letter :: letters, c :: rest =>
    if c = letter then word letters rest else failNext .wantedWord (c :: rest)

/-! ### Numbers -/

/-- **A number as it is written:** its sign, the digits before the point, the digits after it, and
the sign and digits of its exponent. -/
structure Numeral where
  negative : Bool
  whole : List Char
  fraction : Option (List Char)
  exponent : Option (Bool × List Char)
deriving DecidableEq, Repr

/-- Takes all digits that come next. -/
def takeDigits : Reader (List Char) := fun rest =>
  .ok (rest.takeWhile Char.isDigit, rest.dropWhile Char.isDigit)

/-- Takes at least one digit. `atEnd` is what is wrong when the text ends here. -/
def takeSomeDigits (atEnd : Cause) : Reader (List Char)
  | [] => failHere atEnd []
  | c :: rest => if c.isDigit then takeDigits (c :: rest) else failNext .invalidNumber (c :: rest)

namespace Numeral

/-- The digits before the point: a zero that stands alone, or digits that do not start with
one. -/
def scanWhole (atEnd : Cause) : Reader (List Char)
  | '0' :: c :: rest =>
    if c.isDigit then failNext .invalidNumber (c :: rest) else .ok (['0'], c :: rest)
  | rest => takeSomeDigits atEnd rest

/-- The point and the digits after it, if there is a point. -/
def scanFraction (atEnd : Cause) : Reader (Option (List Char))
  | '.' :: rest => do
    let (digits, rest) ← takeSomeDigits atEnd rest
    .ok (some digits, rest)
  | rest => .ok (none, rest)

/-- The sign of an exponent: whether it is negative. -/
def scanSign : Reader Bool
  | '+' :: rest => .ok (false, rest)
  | '-' :: rest => .ok (true, rest)
  | rest => .ok (false, rest)

/-- The exponent, if there is one. -/
def scanExponent (atEnd : Cause) : Reader (Option (Bool × List Char))
  | [] => .ok (none, [])
  | c :: rest =>
    if c = 'e' || c = 'E' then do
      let (negative, rest) ← scanSign rest
      let (digits, rest) ← takeSomeDigits atEnd rest
      .ok (some (negative, digits), rest)
    else .ok (none, c :: rest)

/-- **Reads a number as it is written.** -/
def scan (atEnd : Cause) : Reader Numeral := do
  let negative ← fun rest => match rest with
    | '-' :: rest => .ok (true, rest)
    | rest => .ok (false, rest)
  let whole ← scanWhole atEnd
  let fraction ← scanFraction atEnd
  let exponent ← scanExponent atEnd
  return ⟨negative, whole, fraction, exponent⟩

end Numeral

/-! ### Texts -/

/-- The unit that four hexadecimal digits name. When one of them is no digit, four bytes are taken
before the fault, wherever that leads; when fewer are left, the text ends. -/
def hexUnit : Reader Nat := fun rest =>
  let wrong : Except Fault (Nat × List Char) :=
    let left := Text.utf8Length rest
    if left < 4 then .error ⟨.endInText, 0⟩ else .error ⟨.invalidEscape, left - 4⟩
  match rest with
  | a :: b :: c :: d :: rest =>
    match Text.digitIn? 16 a, Text.digitIn? 16 b, Text.digitIn? 16 c, Text.digitIn? 16 d with
    | some a, some b, some c, some d => .ok (((a * 16 + b) * 16 + c) * 16 + d, rest)
    | _, _, _, _ => wrong
  | _ => wrong

/-- Takes one wanted character inside the second half of a surrogate pair. -/
def takeSecond (wanted : Char) : Reader Unit
  | [] => failHere .endInText []
  | c :: rest =>
    if c = wanted then .ok ((), rest) else failNext .wantedSecondSurrogate (c :: rest)

/-- The character of an escape by number; one outside the basic plane takes two units. -/
def hexChar : Reader Char := do
  let unit ← hexUnit
  if 0xDC00 ≤ unit && unit ≤ 0xDFFF then failHere .unpairedSurrogate
  else if 0xD800 ≤ unit && unit ≤ 0xDBFF then
    takeSecond '\\'
    takeSecond 'u'
    let second ← hexUnit
    if 0xDC00 ≤ second && second ≤ 0xDFFF then
      return Char.ofNat ((unit - 0xD800) * 0x400 + (second - 0xDC00) + 0x10000)
    else failHere .unpairedSurrogate
  else return Char.ofNat unit

/-- The character that a letter after a backslash stands for; the letter `u` is none of them. -/
def shortEscape? (c : Char) : Option Char :=
  if c = '"' then some '"'
  else if c = '\\' then some '\\'
  else if c = '/' then some '/'
  else if c = 'b' then some '\x08'
  else if c = 'f' then some '\x0c'
  else if c = 'n' then some '\n'
  else if c = 'r' then some '\r'
  else if c = 't' then some '\t'
  else none

/-- What follows a backslash. -/
def readEscape : Reader Char
  | [] => failHere .endInText []
  | c :: rest =>
    match shortEscape? c with
    | some char => .ok (char, rest)
    | none => if c = 'u' then hexChar rest else failNext .invalidEscape (c :: rest)

/-- The characters up to the closing quote, which is taken as well. Every step takes a character,
so as many steps as there are characters suffice. -/
def quotedChars : Nat → Reader (List Char)
  | 0, rest => failHere .endInText rest
  | _ + 1, [] => failHere .endInText []
  | steps + 1, c :: rest =>
    if c = '"' then .ok ([], rest)
    else if c = '\\' then do
      let (char, rest) ← readEscape rest
      let (chars, rest) ← quotedChars steps rest
      .ok (char :: chars, rest)
    else if c.toNat < 32 then failNext .controlInText (c :: rest)
    else do
      let (chars, rest) ← quotedChars steps rest
      .ok (c :: chars, rest)

/-- **Reads a text after its opening quote.** -/
def readQuoted : Reader String := fun rest => do
  let (chars, rest) ← quotedChars (rest.length + 1) rest
  .ok (String.ofList chars, rest)

/-- What follows a backslash in a text that is passed over: units are not paired. -/
def skipEscape : Reader Unit
  | [] => failHere .endInText []
  | c :: rest =>
    if (shortEscape? c).isSome then .ok ((), rest)
    else if c = 'u' then (hexUnit rest).map fun (_, rest) => ((), rest)
    else failNext .invalidEscape (c :: rest)

/-- Passes over the characters up to the closing quote; a control is not taken. -/
def skipQuotedChars : Nat → Reader Unit
  | 0, rest => failHere .endInText rest
  | _ + 1, [] => failHere .endInText []
  | steps + 1, c :: rest =>
    if c = '"' then .ok ((), rest)
    else if c = '\\' then do
      let ((), rest) ← skipEscape rest
      skipQuotedChars steps rest
    else if c.toNat < 32 then failHere .controlInText (c :: rest)
    else skipQuotedChars steps rest

/-- **Passes over a text after its opening quote.** -/
def skipQuoted : Reader Unit := fun rest => skipQuotedChars (rest.length + 1) rest

end LaneChart.Json
