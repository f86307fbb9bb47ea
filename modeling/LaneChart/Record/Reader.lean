/-
**Reading records from JSON text.** A record is written as an object, or as a list of its fields
in order. Members with unknown keys are passed over.

* `readString`, `readFlag`, `readCount`, `readOptional`, `readList`, `readChoice`: what fields
  hold.
* `Field`, `Layout`: how a record is put together. A record that is being read is *partial*: each
  field says how it is filled and whether it is already, and `finish` gives the record or names
  the first field that is missing.
* `Layout.read`: the reader.

A value of the wrong kind is reported after it was read when it holds no others, and in front of
its bracket otherwise. A fault of a record as a whole is reported after its closing bracket, if
that is what comes next.
-/

import LaneChart.Json.Reader

namespace LaneChart.Record

open Json

/-! ### What fields hold -/

/-- Reports that the value which comes next is of the wrong kind, or what is wrong with that
value. -/
def wrongKind {α : Type} (wanted : Wanted) : Reader α := do
  match ← nextVisible with
  | none => failHere .endInValue
  | some c =>
    if c = '[' then failHere (.shape (.wrongType .list wanted))
    else if c = '\x7b' then failHere (.shape (.wrongType .object wanted))
    else
      let value ← (scalarAt? c).getD (failNext .wantedValue)
      failHere (.shape (.wrongType (.of value) wanted))

/-- A text. -/
def readString : Reader String := do
  match ← nextVisible with
  | some '"' => takeChar; readQuoted
  | _ => wrongKind .text

/-- A truth value. -/
def readFlag : Reader Bool := do
  match ← nextVisible with
  | some 't' => takeChar; word ['r', 'u', 'e']; return true
  | some 'f' => takeChar; word ['a', 'l', 's', 'e']; return false
  | _ => wrongKind .flag

/-- A whole number that is not negative and fits 64 bits, out of a number. -/
def countOf : Number → Except Mismatch UInt64
  | .whole value =>
    if value < 0 then .error (.wrongValue (.number (.whole value)) .count)
    else .ok value.toNat.toUInt64
  | .real value => .error (.wrongType (.number (.real value)) .count)

/-- A whole number that is not negative and fits 64 bits. -/
def readCount : Reader UInt64 := do
  match ← nextVisible with
  | none => failHere .endInValue
  | some c =>
    if c = '-' || c.isDigit then
      match countOf (← readNumber) with
      | .ok count => return count
      | .error mismatch => failHere (.shape mismatch)
    else wrongKind .count

/-- A value that may be null. -/
def readOptional {α : Type} (reader : Reader α) : Reader (Option α) := do
  match ← nextVisible with
  | some 'n' => takeChar; word ['u', 'l', 'l']; return none
  | _ => return some (← reader)

/-- A list. -/
def readList {α : Type} (item : Reader α) : Reader (List α) := do
  match ← nextVisible with
  | some '[' => takeChar; listOf item
  | _ => wrongKind .list

/-- Null and nothing else. -/
def readNothing : Reader Unit := do
  match ← nextVisible with
  | some 'n' => takeChar; word ['u', 'l', 'l']
  | _ => wrongKind .nothing

/-- The choice with a name. -/
def choiceNamed {α : Type} (known : List (String × α)) (name : String) : Reader α :=
  match known.lookup name with
  | some choice => pure choice
  | none => failHere (.shape (.unknownVariant name (known.map (·.1))))

/-- **One of several named choices,** as its name or as an object with that one key and null in
it. -/
def readChoice {α : Type} (known : List (String × α)) : Reader α := do
  match ← nextVisible with
  | none => failHere .endInValue
  | some c =>
    if c = '"' then
      takeChar
      choiceNamed known (← readQuoted)
    else if c = '\x7b' then
      takeChar
      match ← nextKey true with
      | none => failNext .wantedValue
      | some name =>
        let choice ← choiceNamed known name
        takeColon
        readNothing
        match ← nextVisible with
        | some '\x7d' => takeChar; return choice
        | some _ => failHere .wantedValue
        | none => failHere .endInObject
    else failNext .wantedValue

/-! ### Records -/

/-- **A field** of a record whose partial form is `π`. -/
structure Field (π : Type) where
  name : String
  /-- whether a partial record has the field -/
  filled : π → Bool
  /-- reads the value of the field into a partial record -/
  fill : π → Reader π
  /-- whether the list form may end in front of the field -/
  mayEnd : Bool

/-- The field that a reader fills through a setter. -/
def Field.of {π α : Type} (name : String) (reader : Reader α) (get : π → Option α)
    (set : π → α → π) (mayEnd : Bool) : Field π where
  name := name
  filled := fun part => (get part).isSome
  fill := fun part => do return set part (← reader)
  mayEnd := mayEnd

/-- **A record type:** its name, its fields in order, and how a partial record becomes a whole
one. -/
structure Layout (π α : Type) where
  name : String
  fields : List (Field π)
  start : π
  finish : π → Except Mismatch α

/-- The value of a field that has to be there. -/
def needed {α : Type} (name : String) : Option α → Except Mismatch α
  | some value => .ok value
  | none => .error (.missingField name)

/-- Reports a fault of a record as a whole, after its closing bracket if that comes next. -/
def failClosed {α : Type} (close : Char) (mismatch : Mismatch) : Reader α := do
  if (← nextVisible) = some close then takeChar
  failHere (.shape mismatch)

namespace Layout

variable {π α : Type}

/-- Reads the value of one member. -/
def member (layout : Layout π α) (key : String) (part : π) : Reader π :=
  match layout.fields.find? (·.name == key) with
  | none => do
    takeColon
    skipValue
    return part
  | some field =>
    if field.filled part then failClosed '\x7d' (.duplicateField key)
    else do
      takeColon
      field.fill part

/-- Reads the object form after the opening brace. -/
def readMembers (layout : Layout π α) : Reader α := do
  let part ← membersOf layout.member layout.start
  match layout.finish part with
  | .ok whole => takeChar; return whole
  | .error mismatch => failClosed '\x7d' mismatch

/-- Reads the values of fields one after the other. The number counts the fields in front of
them. -/
def readFields (layout : Layout π α) : List (Field π) → Nat → π → Reader π
  | [], _, part => pure part
  | field :: rest, index, part => do
    if ← nextItem (index == 0) then
      let part ← field.fill part
      readFields layout rest (index + 1) part
    else if field.mayEnd then readFields layout rest (index + 1) part
    else failClosed ']' (.tooShort index layout.name layout.fields.length)

/-- The end of the list form. -/
def endList : Reader Unit := do
  match ← nextVisible with
  | none => failHere .endInList
  | some ']' => takeChar
  | some ',' =>
    takeChar
    match ← nextVisible with
    | some ']' => failNext .trailingComma
    | _ => failNext .trailingCharacters
  | some _ => failNext .trailingCharacters

/-- Reads the list form after the opening bracket. -/
def readItems (layout : Layout π α) : Reader α := do
  let part ← layout.readFields layout.fields 0 layout.start
  match layout.finish part with
  | .ok whole => endList; return whole
  | .error mismatch => failClosed ']' mismatch

/-- **Reads a record.** -/
def read (layout : Layout π α) : Reader α := do
  match ← nextVisible with
  | none => failHere .endInValue
  | some c =>
    if c = '[' then takeChar; layout.readItems
    else if c = '\x7b' then takeChar; layout.readMembers
    else wrongKind (.record layout.name)

end Layout

end LaneChart.Record
