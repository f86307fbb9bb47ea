/-
**JSON values.** A number keeps whether it was written as a whole number, because the two kinds
are printed differently. An object is a list of members: what a reader builds is ordered by key
with no key twice, and a record that this program prints has its members in the order of its
fields.

* `Number`, `Json`: the values.
* `Json.insert`: puts a member in its place among ordered members.
* `Json.sorted`: the same value with the members of every object ordered by key.
-/

namespace LaneChart

namespace Json

/-- A number: a whole one, or a binary64 one. -/
inductive Number where
  | whole (value : Int)
  | real (value : Float)
deriving DecidableEq, Repr

end Json

/-- **A JSON value.** -/
inductive Json where
  | null
  | bool (value : Bool)
  | number (value : Json.Number)
  | text (value : String)
  | list (items : List Json)
  | object (members : List (String × Json))
deriving BEq, Repr, Inhabited

namespace Json

/-- The members of an object. -/
abbrev Members := List (String × Json)

/-- A whole number as a value. -/
def ofNat (n : Nat) : Json := .number (.whole n)

/-- A list of texts as a value. -/
def ofTexts (texts : List String) : Json := .list (texts.map Json.text)

/-- A text that may be absent as a value. -/
def ofText? : Option String → Json
  | some content => .text content
  | none => .null

/-- The members of a value that is an object. -/
def members? : Json → Option Members
  | .object members => some members
  | _ => none

/-- Whether a value is an object. -/
def isObject (value : Json) : Bool := value.members?.isSome

/-- The items of a value that is a list. -/
def items? : Json → Option (List Json)
  | .list items => some items
  | _ => none

/-- The text of a value that is a text. -/
def text? : Json → Option String
  | .text content => some content
  | _ => none

/-- The member of an object with a key. -/
def get? (value : Json) (key : String) : Option Json :=
  value.members?.bind (·.lookup key)

/-- Puts a member among members ordered by key. A member with the same key is replaced. -/
def insert (key : String) (value : Json) : Members → Members
  | [] => [(key, value)]
  | (other, old) :: rest =>
    if key < other then (key, value) :: (other, old) :: rest
    else if key = other then (key, value) :: rest
    else (other, old) :: insert key value rest

mutual

/-- **The same value with the members of every object ordered by key.** -/
def sorted : Json → Json
  | .null => .null
  | .bool value => .bool value
  | .number value => .number value
  | .text value => .text value
  | .list items => .list (sortedItems items)
  | .object members => .object (sortedMembers members)
termination_by structural value => value

/-- `sorted` for the items of a list. -/
def sortedItems : List Json → List Json
  | [] => []
  | item :: rest => item.sorted :: sortedItems rest
termination_by structural items => items

/-- `sorted` for the members of an object. -/
def sortedMembers : List (String × Json) → Members
  | [] => []
  | (key, value) :: rest => insert key value.sorted (sortedMembers rest)
termination_by structural members => members

end

end Json

end LaneChart
