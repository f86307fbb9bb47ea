/-
**What can be wrong with JSON text.** A cause says what is wrong, a fault adds how many bytes of
the text were still unread, and a rejection turns that number into a place.

* `Mismatch`: the text is JSON but does not have the shape of the record it is read as.
* `Cause`, `Cause.message`: everything that can be wrong, and how it is said.
* `Fault`, `Rejection`: a cause at its place. `Fault.rejection` computes the place.
-/

import LaneChart.Json.Printer
import LaneChart.Text.Place
import LaneChart.Text.Quoted

namespace LaneChart.Json

/-- The kind of value that was met, with what a message shows of it. -/
inductive Found where
  | null
  | bool (value : Bool)
  | number (value : Number)
  | text (value : String)
  | list
  | object
deriving DecidableEq, Repr

/-- What a message shows of a value. -/
def Found.of : Json → Found
  | .null => .null
  | .bool value => .bool value
  | .number value => .number value
  | .text value => .text value
  | .list _ => .list
  | .object _ => .object

/-- The wording for a value that was met. -/
def Found.message : Found → String
  | .null => "null"
  | .bool true => "boolean `true`"
  | .bool false => "boolean `false`"
  | .number (.whole value) => s!"integer `{Number.text (.whole value)}`"
  | .number (.real value) => s!"floating point `{Number.text (.real value)}`"
  | .text value => s!"string {Text.quoted value}"
  | .list => "sequence"
  | .object => "map"

/-- The kind of value that was wanted. -/
inductive Wanted where
  | text
  | flag
  | count
  | list
  | nothing
  | record (name : String)
deriving DecidableEq, Repr

/-- The wording for a value that was wanted. -/
def Wanted.message : Wanted → String
  | .text => "a string"
  | .flag => "a boolean"
  | .count => "u64"
  | .list => "a sequence"
  | .nothing => "unit"
  | .record name => s!"struct {name}"

/-- **JSON that is not of the wanted shape.** -/
inductive Mismatch where
  | missingField (name : String)
  | duplicateField (name : String)
  | tooShort (found : Nat) (record : String) (fields : Nat)
  | wrongType (found : Found) (wanted : Wanted)
  | wrongValue (found : Found) (wanted : Wanted)
  | unknownVariant (name : String) (known : List String)
deriving DecidableEq, Repr

/-- How a mismatch is said. -/
def Mismatch.message : Mismatch → String
  | .missingField name => s!"missing field `{name}`"
  | .duplicateField name => s!"duplicate field `{name}`"
  | .tooShort found record fields =>
    s!"invalid length {found}, expected struct {record} with {fields} " ++
      if fields = 1 then "element" else "elements"
  | .wrongType found wanted => s!"invalid type: {found.message}, expected {wanted.message}"
  | .wrongValue found wanted => s!"invalid value: {found.message}, expected {wanted.message}"
  | .unknownVariant name known =>
    s!"unknown variant `{name}`, expected one of " ++
      ", ".intercalate (known.map fun variant => s!"`{variant}`")

/-- **Everything that can be wrong with a JSON text.** -/
inductive Cause where
  | endInValue
  | endInText
  | endInList
  | endInObject
  | wantedColon
  | wantedCommaOrListEnd
  | wantedCommaOrObjectEnd
  | wantedWord
  | wantedValue
  | invalidNumber
  | numberOutOfRange
  | invalidEscape
  | unpairedSurrogate
  | wantedSecondSurrogate
  | controlInText
  | keyNotText
  | trailingComma
  | trailingCharacters
  | tooDeep
  | shape (mismatch : Mismatch)
deriving DecidableEq, Repr

/-- How a cause is said. -/
def Cause.message : Cause → String
  | .endInValue => "EOF while parsing a value"
  | .endInText => "EOF while parsing a string"
  | .endInList => "EOF while parsing a list"
  | .endInObject => "EOF while parsing an object"
  | .wantedColon => "expected `:`"
  | .wantedCommaOrListEnd => "expected `,` or `]`"
  | .wantedCommaOrObjectEnd => "expected `,` or `\x7d`"
  | .wantedWord => "expected ident"
  | .wantedValue => "expected value"
  | .invalidNumber => "invalid number"
  | .numberOutOfRange => "number out of range"
  | .invalidEscape => "invalid escape"
  | .unpairedSurrogate => "lone leading surrogate in hex escape"
  | .wantedSecondSurrogate => "unexpected end of hex escape"
  | .controlInText => "control character (\\u0000-\\u001F) found while parsing a string"
  | .keyNotText => "key must be a string"
  | .trailingComma => "trailing comma"
  | .trailingCharacters => "trailing characters"
  | .tooDeep => "recursion limit exceeded"
  | .shape mismatch => mismatch.message

/-- A cause, and how many bytes of the text were unread when it was found. -/
structure Fault where
  cause : Cause
  unread : Nat
deriving DecidableEq, Repr

/-- **A cause and the place where it was found.** -/
structure Rejection where
  cause : Cause
  place : Text.Place
deriving DecidableEq, Repr

/-- How a rejection is said. -/
def Rejection.message (rejection : Rejection) : String :=
  s!"{rejection.cause.message} at {rejection.place.text}"

/-- The rejection of a text: its place lies where the unread bytes begin. -/
def Fault.rejection (fault : Fault) (text : List Char) : Rejection :=
  ⟨fault.cause, .afterBytes text (Text.utf8Length text - fault.unread)⟩

end LaneChart.Json
