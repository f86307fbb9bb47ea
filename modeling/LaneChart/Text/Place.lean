/-
**Places in a text.** A reader keeps the text it has not read yet, so a fault is known by how many
bytes were still unread. Here such a count becomes what a person is shown.

* `utf8Length`: the bytes that a list of characters takes.
* `Place.afterBytes`: the line and the column reached after a number of bytes. Lines start at one,
  columns count the bytes since the last line feed, so a place in front of a line is column zero.
-/

namespace LaneChart.Text

/-- The number of bytes that the characters take in UTF-8. -/
def utf8Length : List Char → Nat
  | [] => 0
  | c :: rest => c.utf8Size + utf8Length rest

@[simp] theorem utf8Length_nil : utf8Length [] = 0 := rfl

@[simp] theorem utf8Length_cons (c : Char) (rest : List Char) :
    utf8Length (c :: rest) = c.utf8Size + utf8Length rest := rfl

@[simp] theorem utf8Length_append (first second : List Char) :
    utf8Length (first ++ second) = utf8Length first + utf8Length second := by
  induction first with
  | nil => simp
  | cons c rest ih => simp [ih, Nat.add_assoc]

/-- A line and a column. -/
structure Place where
  line : Nat
  column : Nat
deriving Repr, DecidableEq

namespace Place

/-- Where a text starts. -/
def start : Place := ⟨1, 0⟩

/-- Walks over a number of bytes; an offset inside a character counts the bytes of it that were
walked over. -/
def walk : List Char → Nat → Place → Place
  | [], _, place => place
  | c :: rest, bytes, place =>
    if bytes < c.utf8Size then { place with column := place.column + bytes }
    else if c = '\n' then walk rest (bytes - c.utf8Size) ⟨place.line + 1, 0⟩
    else walk rest (bytes - c.utf8Size) { place with column := place.column + c.utf8Size }

/-- The place that lies a number of bytes into a text. -/
def afterBytes (text : List Char) (bytes : Nat) : Place := walk text bytes start

/-- How a place is written at the end of a message. -/
def text (place : Place) : String := s!"line {place.line} column {place.column}"

end Place

end LaneChart.Text
