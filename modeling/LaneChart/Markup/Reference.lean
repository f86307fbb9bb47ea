/-
**References in attribute values.** A reference stands for one character, which it gives by one of
five names or by number.

* `named?`: the five names.
* `numbered`: the character with a number.
* `unescape`: a value with its references replaced.
-/

import LaneChart.Markup.Fault
import LaneChart.Text.Chars
import LaneChart.Text.Place

namespace LaneChart.Markup

/-- The character with a name. -/
def named? (name : List Char) : Option Char :=
  [(['l', 't'], '<'), (['g', 't'], '>'), (['a', 'm', 'p'], '&'), (['a', 'p', 'o', 's'], '\x27'),
    (['q', 'u', 'o', 't'], '"')].lookup name

/-- Appends digits to a number that has to stay below `2 ^ 32`. A character that is no digit is
noticed before the number is too large. -/
def appendDigits (base : Nat) : Nat → List Char → Except NumberFault Nat
  | value, [] => .ok value
  | value, c :: rest =>
    match Text.digitIn? base c with
    | none => .error .invalidDigit
    | some digit =>
      if value * base + digit < 2 ^ 32 then appendDigits base (value * base + digit) rest
      else .error .tooLarge

/-- The number that digits in a base write. -/
def numberIn (base : Nat) (digits : List Char) : Except NumberFault Nat :=
  match digits with
  | [] => .error .empty
  | c :: _ => if c = '+' || c = '-' then .error .signed else appendDigits base 0 digits

/-- The character with a number. -/
def numbered (text : List Char) : Except NumberFault Char := do
  let number ← match text with
    | 'x' :: digits => numberIn 16 digits
    | digits => numberIn 10 digits
  if number = 0 then throw .zero
  else if number.isValidChar then return Char.ofNat number
  else throw (.noCharacter number)

/-- The character that a reference stands for. The numbers are the bytes of the value that lie
before and after what stands between `&` and `;`. -/
def resolve (first last : Nat) (name : List Char) : Except ReferenceFault Char :=
  match name with
  | '#' :: number => (numbered number).mapError .badNumber
  | _ =>
    match named? name with
    | some char => .ok char
    | none => .error (.unknownName first last (String.ofList name))

/-- A value with its references replaced, in so many steps. Every step takes a character. -/
def unescapeIn (total : Nat) : Nat → List Char → Except ReferenceFault (List Char)
  | 0, _ => .ok []
  | _ + 1, [] => .ok []
  | steps + 1, c :: rest =>
    if c = '&' then
      let name := rest.takeWhile fun d => d ≠ '&' && d ≠ ';'
      let after := rest.dropWhile fun d => d ≠ '&' && d ≠ ';'
      let first := total - Text.utf8Length rest
      match after with
      | ';' :: after => do
        let char ← resolve first (first + Text.utf8Length name) name
        return char :: (← unescapeIn total steps after)
      | _ => .error (.unterminated (first - 1) total)
    else do return c :: (← unescapeIn total steps rest)

/-- **A value with its references replaced.** -/
def unescape (value : List Char) : Except ReferenceFault (List Char) :=
  unescapeIn (Text.utf8Length value) value.length value

end LaneChart.Markup
