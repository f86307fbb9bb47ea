/-
**Well-formed XML.** The part of the grammar of XML 1.0 that printed trees stay in: elements with
attributes between double quotes, references, comments, and text without markup. What is derivable
here is well-formed XML; the converse does not hold, for there is no document type, no CDATA and no
single quote in it.

* `IsPlain`: text that can stand between tags and between quotes alike.
* `AreAttributes`: attributes, each key once.
* `IsElement`, `IsContent`, `IsDocument`: elements, what is in them, and whole documents.
* `isPlain_escape`: whatever is escaped becomes plain text.
* `Node.isElement_print`, `Node.isContent_print`: printed trees are well-formed.
-/

import LaneChart.Proofs.Markup.Printing

namespace LaneChart.Markup

/-! ### The grammar -/

/-- The number that decimal digits write. -/
def decimalValue (digits : List Char) : Nat :=
  digits.foldl (fun number c => 10 * number + (c.toNat - '0'.toNat)) 0

/-- **What can stand between `&` and `;`:** one of the five names, or the decimal number of a
character of XML 1.0. -/
inductive IsReference : List Char → Prop where
  | named {name : List Char}
      (known : name ∈ [['a', 'm', 'p'], ['l', 't'], ['g', 't'], ['q', 'u', 'o', 't'],
        ['a', 'p', 'o', 's']]) :
      IsReference name
  | numbered {digits : List Char} (some : digits ≠ []) (decimal : digits.all Char.isDigit = true)
      (legal : isXmlChar (Char.ofNat (decimalValue digits)) = true) :
      IsReference ('#' :: digits)

/-- **Text without markup:** characters that mean themselves, and references. -/
inductive IsPlain : List Char → Prop where
  | nil : IsPlain []
  | char {c : Char} {rest : List Char} (legal : isXmlChar c = true)
      (itself : c ∉ ['&', '<', '>', '"', '\x27']) (plain : IsPlain rest) : IsPlain (c :: rest)
  | reference {name rest : List Char} (names : IsReference name) (plain : IsPlain rest) :
      IsPlain ('&' :: name ++ ';' :: rest)

/-- **Attributes with the given keys,** each key once. -/
inductive AreAttributes : List (List Char) → List Char → Prop where
  | nil : AreAttributes [] []
  | cons {keys : List (List Char)} {key value rest : List Char} (named : isName key = true)
      (plain : IsPlain value) (once : key ∉ keys) (more : AreAttributes keys rest) :
      AreAttributes (key :: keys) (' ' :: key ++ '=' :: '"' :: value ++ '"' :: rest)

mutual

/-- **An element.** The end tag has the name of the start tag. -/
inductive IsElement : List Char → Prop where
  | empty {name attributes : List Char} {keys : List (List Char)} (named : isName name = true)
      (sound : AreAttributes keys attributes) :
      IsElement ('<' :: name ++ attributes ++ [' ', '/', '>'])
  | full {name attributes content : List Char} {keys : List (List Char)}
      (named : isName name = true) (sound : AreAttributes keys attributes)
      (inner : IsContent content) :
      IsElement ('<' :: name ++ attributes ++ '>' :: content ++ '<' :: '/' :: name ++ ['>'])

/-- **What can be in an element.** -/
inductive IsContent : List Char → Prop where
  | nil : IsContent []
  | text {plain rest : List Char} (meansItself : IsPlain plain) (more : IsContent rest) :
      IsContent (plain ++ rest)
  | element {element rest : List Char} (nested : IsElement element) (more : IsContent rest) :
      IsContent (element ++ rest)
  | comment {comment rest : List Char} (sound : isCommentText comment = true)
      (more : IsContent rest) :
      IsContent (['<', '!', '-', '-'] ++ comment ++ ['-', '-', '>'] ++ rest)

end

/-- **A document:** the declaration and one element, with blanks after each. -/
inductive IsDocument : List Char → Prop where
  | intro {before root after : List Char} (apart : before.all Text.isBlank = true)
      (element : IsElement root) (ended : after.all Text.isBlank = true) :
      IsDocument ("<?xml version=\"1.0\" encoding=\"UTF-8\"?>".toList ++ before ++ root ++ after)

/-! ### Printed trees -/

theorem isReference_of_mem_references {c : Char} {name : List Char}
    (member : (c, name) ∈ references) : IsReference name := by
  simp only [references, List.mem_cons, Prod.mk.injEq, List.not_mem_nil, or_false] at member
  rcases member with ⟨_, rfl⟩ | ⟨_, rfl⟩ | ⟨_, rfl⟩ | ⟨_, rfl⟩ | ⟨_, rfl⟩ | ⟨_, rfl⟩ | ⟨_, rfl⟩ |
    ⟨_, rfl⟩
  · exact .named (by decide)
  · exact .named (by decide)
  · exact .named (by decide)
  · exact .named (by decide)
  · exact .named (by decide)
  · exact .numbered (by decide) (by decide) (by decide)
  · exact .numbered (by decide) (by decide) (by decide)
  · exact .numbered (by decide) (by decide) (by decide)

theorem isPlain_flatMap_escapeChar (text : List Char) : IsPlain (text.flatMap escapeChar) := by
  induction text with
  | nil => exact .nil
  | cons c text ih =>
    rw [List.flatMap_cons]
    rcases escapeChar_cases c with ⟨name, member, escaped⟩ | ⟨legal, unlisted, escaped⟩ |
      ⟨_, escaped⟩
    · have shape : '&' :: name ++ [';'] ++ text.flatMap escapeChar =
          '&' :: name ++ ';' :: text.flatMap escapeChar := by simp
      rw [escaped, shape]
      exact .reference (isReference_of_mem_references member) ih
    · rw [escaped]
      refine .char legal (fun special => unlisted ?_) ih
      have listed : ['&', '<', '>', '"', '\x27'] ⊆ references.map (·.1) := by decide
      exact listed special
    · rw [escaped]
      exact ih

/-- **Whatever is escaped becomes plain text.** -/
theorem isPlain_escape (text : String) : IsPlain (escape text) :=
  isPlain_flatMap_escapeChar text.toList

theorem areAttributes_print {attributes : Attributes} (sound : SoundAttributes attributes) :
    AreAttributes (attributes.map (·.1.toList)) (Node.printAttributes attributes) := by
  induction attributes with
  | nil => exact .nil
  | cons entry attributes ih =>
    obtain ⟨key, value⟩ := entry
    have once : key.toList ∉ attributes.map (·.1.toList) := by
      intro member
      obtain ⟨other, known, same⟩ := List.mem_map.mp member
      exact (List.nodup_cons.mp sound.distinct).1
        (List.mem_map.mpr ⟨other, known, String.toList_inj.mp same⟩)
    have shape : Node.printAttributes ((key, value) :: attributes) =
        ' ' :: key.toList ++ '=' :: '"' :: escape value ++ '"' ::
          Node.printAttributes attributes := by
      simp [Node.printAttributes, Node.printAttribute]
    rw [shape]
    exact .cons (sound.named _ List.mem_cons_self) (isPlain_escape value) once (ih sound.tail)

theorem isPlain_line (indent : Nat) : IsPlain ('\n' :: List.replicate indent ' ') := by
  refine .char (by decide) (by decide) ?_
  induction indent with
  | zero => exact .nil
  | succ indent ih => exact .char (by decide) (by decide) ih

namespace Node

mutual

/-- **A printed tree can stand in an element.** -/
theorem isContent_print (node : Node) (sound : node.Sound) {rest : List Char}
    (more : IsContent rest) : IsContent (node.print ++ rest) := by
  cases node with
  | element name attributes children =>
    rw [print]
    exact .element (.full sound.1 (areAttributes_print sound.2.1)
      (isContent_printAll children sound.2.2)) more
  | empty name attributes =>
    rw [print]
    exact .element (.empty sound.1 (areAttributes_print sound.2)) more
  | text content => exact .text (isPlain_escape content) more
  | comment content => exact .comment sound more
  | line indent => exact .text (isPlain_line indent) more
termination_by structural node

/-- Several printed trees can stand in an element. -/
theorem isContent_printAll (nodes : List Node) (sound : AllSound nodes) :
    IsContent (printAll nodes) := by
  cases nodes with
  | nil => exact .nil
  | cons node nodes => exact isContent_print node sound.1 (isContent_printAll nodes sound.2)
termination_by structural nodes

end

/-- **A printed element is an element.** -/
theorem isElement_print {name : String} {attributes : Attributes} {children : List Node}
    (sound : (Node.element name attributes children).Sound) :
    IsElement (Node.element name attributes children).print := by
  rw [print]
  exact .full sound.1 (areAttributes_print sound.2.1) (isContent_printAll children sound.2.2)

end Node

end LaneChart.Markup
