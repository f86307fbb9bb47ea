/-
**XML as a tree.** Documents are built as trees and printed at the end, so nothing that is put
into a tree can become markup by accident.

* `Node`: elements, text and what stands between them.
* `Node.block`: an element with each of its children on a line of its own.
* `Node.print`: the text of a tree.
-/

import LaneChart.Markup.Escape

namespace LaneChart.Markup

/-- The attributes of an element, with their values before escaping. -/
abbrev Attributes := List (String × String)

/-- **A piece of an XML document.** -/
inductive Node where
  | element (name : String) (attributes : Attributes) (children : List Node)
  | empty (name : String) (attributes : Attributes)
  | text (content : String)
  | comment (content : String)
  /-- a new line that starts with so many spaces -/
  | line (indent : Nat)
deriving Repr, Inhabited

namespace Node

/-- An element that starts so many spaces in, with its children two spaces further in. -/
def block (indent : Nat) (name : String) (attributes : Attributes) (children : List Node) : Node :=
  .element name attributes
    ((children.flatMap fun child => [.line (indent + 2), child]) ++ [.line indent])

/-- An attribute with the space in front of it. -/
def printAttribute : String × String → List Char
  | (key, value) => ' ' :: key.toList ++ '=' :: '"' :: escape value ++ ['"']

/-- The inside of a tag without its name. -/
def printAttributes (attributes : Attributes) : List Char := attributes.flatMap printAttribute

mutual

/-- **The text of a tree.** -/
def print : Node → List Char
  | .element name attributes children =>
    '<' :: name.toList ++ printAttributes attributes ++ '>' :: printAll children ++
      '<' :: '/' :: name.toList ++ ['>']
  | .empty name attributes => '<' :: name.toList ++ printAttributes attributes ++ [' ', '/', '>']
  | .text content => escape content
  | .comment content => ['<', '!', '-', '-'] ++ content.toList ++ ['-', '-', '>']
  | .line indent => '\n' :: List.replicate indent ' '
termination_by structural node => node

/-- The text of several trees. -/
def printAll : List Node → List Char
  | [] => []
  | node :: rest => node.print ++ printAll rest
termination_by structural nodes => nodes

end

end Node

end LaneChart.Markup
