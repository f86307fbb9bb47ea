/-
**Reading JSON values.** Lists and objects are read by combinators that know nothing of what the
items and members are, so that records read with them too (`Record.Reader`). A value may be nested
`nestingLimit` deep.

* `listOf`, `membersOf`: what follows an opening bracket.
* `readValue`: a value that may hold others to a given depth.
* `skipValue`: a value whose content is not wanted, to any depth.
* `readText`: a whole text, by any reader.
-/

import LaneChart.Json.Numeral

namespace LaneChart.Json

/-! ### Lists and objects -/

/-- Whether another item follows; a comma in front of it is taken. -/
def nextItem (first : Bool) : Reader Bool := do
  match ← nextVisible with
  | none => failHere .endInList
  | some c =>
    if c = ']' then return false
    else if first then return true
    else if c = ',' then
      takeChar
      match ← nextVisible with
      | none => failHere .endInValue
      | some c => if c = ']' then failNext .trailingComma else return true
    else failNext .wantedCommaOrListEnd

/-- Reads items until the closing bracket, which is taken. Every item takes a character, so as
many steps as there are characters suffice. -/
def itemsOf {α : Type} (item : Reader α) : Nat → Bool → Reader (List α)
  | 0, _ => failHere .endInList
  | steps + 1, first => do
    if ← nextItem first then
      let head ← item
      let tail ← itemsOf item steps false
      return head :: tail
    else
      takeChar
      return []

/-- **Reads the items of a list** after the opening bracket. -/
def listOf {α : Type} (item : Reader α) : Reader (List α) := fun rest =>
  itemsOf item (rest.length + 1) true rest

/-- A key that starts with the character that comes next. -/
def keyAt (c : Char) : Reader (Option String) :=
  if c = '"' then do
    takeChar
    return some (← readQuoted)
  else failNext .keyNotText

/-- The next key, if a member follows; a comma in front of it is taken. -/
def nextKey (first : Bool) : Reader (Option String) := do
  match ← nextVisible with
  | none => failHere .endInObject
  | some c =>
    if c = '\x7d' then return none
    else if first then keyAt c
    else if c = ',' then
      takeChar
      match ← nextVisible with
      | none => failHere .endInValue
      | some c => if c = '\x7d' then failNext .trailingComma else keyAt c
    else failNext .wantedCommaOrObjectEnd

/-- The colon after a key. -/
def takeColon : Reader Unit := do
  match ← nextVisible with
  | none => failHere .endInObject
  | some c => if c = ':' then takeChar else failNext .wantedColon

/-- Reads members into a state until the closing brace, which is not taken. Every member takes a
character, so as many steps as there are characters suffice. -/
def membersFrom {σ : Type} (member : String → σ → Reader σ) : Nat → Bool → σ → Reader σ
  | 0, _, _ => failHere .endInObject
  | steps + 1, first, state => do
    match ← nextKey first with
    | none => return state
    | some key =>
      let state ← member key state
      membersFrom member steps false state

/-- **Reads the members of an object** after the opening brace. -/
def membersOf {σ : Type} (member : String → σ → Reader σ) (start : σ) : Reader σ := fun rest =>
  membersFrom member (rest.length + 1) true start rest

/-! ### Values -/

/-- A number with its value. -/
def readNumber : Reader Number := fun rest => do
  let (numeral, rest) ← Numeral.scan .endInValue rest
  match numeral.value with
  | .ok value => .ok (value, rest)
  | .error left => .error ⟨.numberOutOfRange, Text.utf8Length rest + left⟩

/-- How the value is read that starts with a character, if it is one that holds no other value. -/
def scalarAt? (c : Char) : Option (Reader Json) :=
  if c = 'n' then some (do takeChar; word ['u', 'l', 'l']; return .null)
  else if c = 't' then some (do takeChar; word ['r', 'u', 'e']; return .bool true)
  else if c = 'f' then some (do takeChar; word ['a', 'l', 's', 'e']; return .bool false)
  else if c = '-' || c.isDigit then some (do return .number (← readNumber))
  else if c = '"' then some (do takeChar; return .text (← readQuoted))
  else none

/-- **Reads a value** that holds others at most so many levels deep. -/
def readValue : Nat → Reader Json
  | 0 => do
    match ← nextVisible with
    | none => failHere .endInValue
    | some c =>
      if c = '[' || c = '\x7b' then failNext .tooDeep
      else (scalarAt? c).getD (failNext .wantedValue)
  | depth + 1 => do
    match ← nextVisible with
    | none => failHere .endInValue
    | some c =>
      if c = '[' then
        takeChar
        return .list (← listOf (readValue depth))
      else if c = '\x7b' then
        takeChar
        let members ← membersOf (fun key members => do
          takeColon
          return insert key (← readValue depth) members) []
        takeChar
        return .object members
      else (scalarAt? c).getD (failNext .wantedValue)

/-- How deep lists and objects may be nested. -/
def nestingLimit : Nat := 127

/-! ### Values that are passed over -/

/-- What an unfinished list or object is. -/
inductive Bracket where
  | list
  | object
deriving DecidableEq, Repr

/-- The closing character. -/
def Bracket.close : Bracket → Char
  | .list => ']'
  | .object => '\x7d'

/-- What is wrong when the text ends inside. -/
def Bracket.atEnd : Bracket → Cause
  | .list => .endInList
  | .object => .endInObject

/-- What is wrong when neither a comma nor the closing character follows. -/
def Bracket.unseparated : Bracket → Cause
  | .list => .wantedCommaOrListEnd
  | .object => .wantedCommaOrObjectEnd

/-- Passes over what stands in front of a value inside a list or an object. -/
def Bracket.skipKey : Bracket → Reader Unit
  | .list => pure ()
  | .object => do
    match ← nextVisible with
    | none => failHere .endInObject
    | some c =>
      if c = '"' then
        takeChar
        skipQuoted
        takeColon
      else failNext .keyNotText

/-- Enters a list or an object. Gives back whether a value is due, and what is unfinished then. -/
def skipOpen (bracket : Bracket) (unfinished : List Bracket) : Reader (Bool × List Bracket) := do
  takeChar
  match ← nextVisible with
  | none => failHere bracket.atEnd
  | some c =>
    if c = bracket.close then
      takeChar
      return (false, unfinished)
    else
      bracket.skipKey
      return (true, bracket :: unfinished)

/-- Passes over the start of a value, or over all of it if it holds no other. -/
def skipStart (unfinished : List Bracket) : Reader (Bool × List Bracket) := do
  match ← nextVisible with
  | none => failHere .endInValue
  | some c =>
    if c = '[' then skipOpen .list unfinished
    else if c = '\x7b' then skipOpen .object unfinished
    else if c = '-' || c.isDigit then
      let _ ← Numeral.scan .invalidNumber
      return (false, unfinished)
    else if c = '"' then
      takeChar
      skipQuoted
      return (false, unfinished)
    else
      let _ ← (scalarAt? c).getD (failNext .wantedValue)
      return (false, unfinished)

/-- Passes over what follows a value inside the innermost unfinished list or object. -/
def skipAfter (bracket : Bracket) (unfinished : List Bracket) : Reader (Bool × List Bracket) := do
  match ← nextVisible with
  | none => failHere bracket.atEnd
  | some c =>
    if c = ',' then
      takeChar
      bracket.skipKey
      return (true, bracket :: unfinished)
    else if c = bracket.close then
      takeChar
      return (false, unfinished)
    else failNext bracket.unseparated

/-- Passes over values until nothing is unfinished. Every step takes a character, so as many steps
as there are characters suffice. -/
def skipSteps : Nat → Bool → List Bracket → Reader Unit
  | 0, _, _ => failHere .endInValue
  | _ + 1, false, [] => pure ()
  | steps + 1, false, bracket :: unfinished => do
    let (due, unfinished) ← skipAfter bracket unfinished
    skipSteps steps due unfinished
  | steps + 1, true, unfinished => do
    let (due, unfinished) ← skipStart unfinished
    skipSteps steps due unfinished

/-- **Passes over a value.** Only its form is checked: numbers may be of any size, units of an
escape need not pair, and there is no limit to the nesting. -/
def skipValue : Reader Unit := fun rest => skipSteps (rest.length + 2) true [] rest

/-! ### Whole texts -/

/-- The end of the text, after blanks. -/
def atEnd : Reader Unit := do
  match ← nextVisible with
  | none => pure ()
  | some _ => failNext .trailingCharacters

/-- **Reads a whole text.** -/
def readChars {α : Type} (reader : Reader α) (text : List Char) : Except Rejection α :=
  match (do let result ← reader; atEnd; return result : Reader α) text with
  | .ok (result, _) => .ok result
  | .error fault => .error (fault.rejection text)

/-- `readChars` for a `String`. -/
def readText {α : Type} (reader : Reader α) (text : String) : Except Rejection α :=
  readChars reader text.toList

/-- **Reads a text as a value.** -/
def parse (text : String) : Except Rejection Json := readText (readValue nestingLimit) text

end LaneChart.Json
