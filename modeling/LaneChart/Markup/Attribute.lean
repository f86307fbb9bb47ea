/-
**The attributes of a tag.** They are looked through in order and only as far as needed, so what
is wrong behind the attribute that is wanted goes unnoticed.

* `Attribute`: a key with its value as written.
* `Tag.attributes`: the attributes up to the first fault, and that fault.
* `Tag.find?`: the value of the first attribute whose key, without its prefix, is the wanted one.
-/

import LaneChart.Markup.Reference
import LaneChart.Markup.Token

namespace LaneChart.Markup

/-- A key with its value as written. -/
structure Attribute where
  key : List Char
  value : List Char
deriving DecidableEq, Repr

/-- What follows a key and its equals sign; otherwise the text at which the sign was missed. -/
def afterEquals (text : List Char) : Except (List Char) (List Char) :=
  match text.dropWhile Text.isBlank with
  | '=' :: rest => .ok rest
  | rest => .error rest

/-- The value that follows an equals sign, and the text after it. `total` is where the tag
ends. -/
def quotedValue (total : Nat) (text : List Char) :
    Except AttributeFault (List Char × List Char) :=
  match text.dropWhile Text.isBlank with
  | [] => .error (.missingValue total)
  | quote :: rest =>
    if quote = '"' || quote = '\x27' then
      match rest.dropWhile (· ≠ quote) with
      | [] => .error (.unclosedValue total quote)
      | _ :: after => .ok (rest.takeWhile (· ≠ quote), after)
    else .error (.unquotedValue (total - Text.utf8Length (quote :: rest)))

/-- The attribute at the front of a text that is not blank there, and the text after it. The keys
that were met before are given with their positions. -/
def readAttribute (total : Nat) (earlier : List (List Char × Nat)) (first : Char)
    (text : List Char) : Except AttributeFault (Attribute × List Char) := do
  let key := first :: text.takeWhile fun c => c ≠ '=' && !Text.isBlank c
  let position := total - Text.utf8Length (first :: text)
  match afterEquals (text.dropWhile fun c => c ≠ '=' && !Text.isBlank c) with
  | .error rest => throw (.keyWithoutValue (total - Text.utf8Length rest))
  | .ok rest =>
    match earlier.lookup key with
    | some other => throw (.repeatedKey position other)
    | none =>
      let (value, rest) ← quotedValue total rest
      return (⟨key, value⟩, rest)

/-- The attributes found in so many steps. Every step takes a character. -/
def attributesIn (total : Nat) :
    Nat → List (List Char × Nat) → List Char → List Attribute × Option AttributeFault
  | 0, _, _ => ([], none)
  | steps + 1, earlier, text =>
    match text.dropWhile Text.isBlank with
    | [] => ([], none)
    | first :: rest =>
      match readAttribute total earlier first rest with
      | .error fault => ([], some fault)
      | .ok (found, after) =>
        let position := total - Text.utf8Length (first :: rest)
        let (more, fault) := attributesIn total steps ((found.key, position) :: earlier) after
        (found :: more, fault)

namespace Tag

/-- **The attributes of a tag,** and the fault that ends them early. -/
def attributes (tag : Tag) : List Attribute × Option AttributeFault :=
  attributesIn (Text.utf8Length tag.name + Text.utf8Length tag.inside) (tag.inside.length + 1) []
    tag.inside

/-- **The value of the first attribute with a key,** with its references replaced. -/
def find? (key : List Char) (tag : Tag) : Except Fault (Option (List Char)) :=
  let (attributes, fault) := tag.attributes
  match attributes.find? fun candidate => localPart candidate.key == key, fault with
  | some found, _ =>
    match unescape found.value with
    | .ok value => .ok (some value)
    | .error fault => .error (.inReference fault)
  | none, some fault => .error (.inAttribute fault)
  | none, none => .ok none

end Tag

end LaneChart.Markup
