/-
**The pieces of an XML text.** Between the text, which is passed over, there are tags and other
markup. The reader does not validate: entities in text are left alone and declarations are not
looked into.

* `Tag`, `Token`: a tag with its name and its inside, and the kinds of pieces.
* `Token.next`: the piece after an opening angle bracket.
* `Scan.of`: all pieces up to the first one that is not well formed, and what is wrong with that
  one.
-/

import LaneChart.Markup.Fault
import LaneChart.Text.Chars
import LaneChart.Text.Place
import LaneChart.Text.Search

namespace LaneChart.Markup

/-- What follows the first colon, or everything when there is none. -/
def localPart (name : List Char) : List Char :=
  match name.dropWhile (· ≠ ':') with
  | [] => name
  | _ :: part => part

/-- **A tag:** its name, and the rest of its inside. -/
structure Tag where
  name : List Char
  inside : List Char
deriving DecidableEq, Repr

namespace Tag

/-- The tag with an inside; the name ends at the first blank. -/
def ofContent (content : List Char) : Tag :=
  ⟨content.takeWhile (!Text.isBlank ·), content.dropWhile (!Text.isBlank ·)⟩

/-- The name without its prefix. -/
def localName (tag : Tag) : List Char := localPart tag.name

end Tag

/-- **A piece of an XML text.** -/
inductive Token where
  | opening (tag : Tag)
  | selfClosing (tag : Tag)
  | closing (name : List Char)
  | other
deriving DecidableEq, Repr

namespace Token

/-- The name in an end tag: blanks after it are dropped, unless there is nothing else. -/
def closingName (content : List Char) : List Char :=
  let trimmed := (content.reverse.dropWhile Text.isBlank).reverse
  if trimmed.isEmpty then content else trimmed

/-- What the inside of a tag says it is. -/
def ofContent (content : List Char) : Token :=
  match content with
  | '/' :: name => .closing (closingName name)
  | _ =>
    if content.getLast? = some '/' then .selfClosing (.ofContent content.dropLast)
    else .opening (.ofContent content)

/-- The inside of a tag and what follows its closing angle bracket. Brackets between quotes do not
count; the first argument is the quote that is open. -/
def cutTag? : Option Char → List Char → Option (List Char × List Char)
  | _, [] => none
  | none, c :: rest =>
    if c = '>' then some ([], rest)
    else
      (cutTag? (if c = '"' || c = '\x27' then some c else none) rest).map
        fun (content, after) => (c :: content, after)
  | some quote, c :: rest =>
    (cutTag? (if c = quote then none else some quote) rest).map
      fun (content, after) => (c :: content, after)

/-- The inside of a declaration and what follows its closing angle bracket, with as many opening
ones in between as the first argument says are still open. -/
def cutBalanced? : Nat → List Char → Option (List Char × List Char)
  | _, [] => none
  | nested, c :: rest =>
    if c = '>' then
      match nested with
      | 0 => some ([], rest)
      | nested + 1 => (cutBalanced? nested rest).map fun (content, after) => (c :: content, after)
    else
      (cutBalanced? (if c = '<' then nested + 1 else nested) rest).map
        fun (content, after) => (c :: content, after)

/-- A document type declaration, after `<!`. -/
def doctype (text : List Char) : Except Fault (Token × List Char) :=
  match cutBalanced? 0 text with
  | none => .error .unclosedDoctype
  | some (content, rest) =>
    let word := content.take 7
    if word.map Char.toUpper ≠ ['D', 'O', 'C', 'T', 'Y', 'P', 'E'] then .error .unclosedDoctype
    else if (content.drop 7).all Text.isBlank then .error .namelessDoctype
    else .ok (.other, rest)

/-- A piece that starts with `head` after `<!` and ends with `last`. -/
def between (head last : List Char) (fault : Fault) (text : List Char) :
    Except Fault (Token × List Char) :=
  if Text.starts head text then
    match Text.cutAt? last (text.drop head.length) with
    | some (_, rest) => .ok (.other, rest)
    | none => .error fault
  else .error fault

/-- A piece that starts with `<!`. -/
def declaration (text : List Char) : Except Fault (Token × List Char) :=
  match text.head? with
  | some '[' => between ['[', 'C', 'D', 'A', 'T', 'A', '['] [']', ']', '>'] .unclosedData text
  | some '-' => between ['-', '-'] ['-', '-', '>'] .unclosedComment text
  | some 'D' | some 'd' => doctype text
  | _ => .error .unknownMarkup

/-- A piece that starts with `<?`. The question mark that opens it does not close it. -/
def processing (text : List Char) : Except Fault (Token × List Char) :=
  if text.head? = some '>' then .error .unclosedInstruction
  else
    match Text.cutAt? ['?', '>'] text with
    | some (_, rest) => .ok (.other, rest)
    | none => .error .unclosedInstruction

/-- **The piece after an opening angle bracket,** and the text after it. -/
def next (text : List Char) : Except Fault (Token × List Char) :=
  match text with
  | '!' :: rest => declaration rest
  | '?' :: rest => processing rest
  | _ =>
    match cutTag? none text with
    | some (content, rest) => .ok (ofContent content, rest)
    | none => .error .unclosedTag

end Token

/-- **The pieces of a text,** and the fault that ends them early. -/
structure Scan where
  tokens : List Token
  fault : Option Fault
deriving DecidableEq, Repr

namespace Scan

/-- The pieces found in so many steps. Every step takes an opening angle bracket, so as many steps
as there are characters suffice. -/
def within : Nat → List Char → Scan
  | 0, _ => ⟨[], none⟩
  | steps + 1, text =>
    match text.dropWhile (· ≠ '<') with
    | [] => ⟨[], none⟩
    | _ :: body =>
      match Token.next body with
      | .error fault => ⟨[], some fault⟩
      | .ok (token, rest) =>
        let more := within steps rest
        ⟨token :: more.tokens, more.fault⟩

/-- A text without the byte order mark that may stand in front of it. -/
def afterMark : List Char → List Char
  | '\uFEFF' :: rest => rest
  | text => text

/-- **All pieces of a text.** -/
def of (text : List Char) : Scan :=
  let text := afterMark text
  within (text.length + 1) text

end Scan

end LaneChart.Markup
