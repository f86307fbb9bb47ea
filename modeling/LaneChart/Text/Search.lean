/-
**Searching a text.**

* `occurs`: one text stands somewhere inside another one.
* `braceSpan?`: the piece from the first opening brace to the last closing brace, which is where
  an object is looked for in prose.
* `cutAt?`: the pieces before and after the first place where a mark stands.
-/

namespace LaneChart.Text

/-- Whether the first text starts the second one. -/
def starts : List Char → List Char → Bool
  | [], _ => true
  | _ :: _, [] => false
  | p :: ps, c :: cs => p == c && starts ps cs

/-- Whether the first text stands somewhere inside the second one. -/
def occurs (part : List Char) : List Char → Bool
  | [] => part.isEmpty
  | c :: rest => starts part (c :: rest) || occurs part rest

/-- `String` form of `occurs`. -/
def within (part text : String) : Bool := occurs part.toList text.toList

/-- The text before the first place where the mark stands and the text after the mark there. -/
def cutAt? (mark : List Char) : List Char → Option (List Char × List Char)
  | [] => if mark.isEmpty then some ([], []) else none
  | c :: rest =>
    if starts mark (c :: rest) then some ([], (c :: rest).drop mark.length)
    else (cutAt? mark rest).map fun (before, after) => (c :: before, after)

/-- The text up to and including the last closing brace. -/
def throughLastBrace? : List Char → Option (List Char)
  | [] => none
  | c :: rest =>
    match throughLastBrace? rest with
    | some kept => some (c :: kept)
    | none => if c = '\x7d' then some [c] else none

/-- The text from the first opening brace to the last closing brace; absent when either is missing
or the last closing brace stands before the first opening one. -/
def braceSpan? (text : List Char) : Option (List Char) :=
  throughLastBrace? (text.dropWhile (· ≠ '\x7b'))

end LaneChart.Text
