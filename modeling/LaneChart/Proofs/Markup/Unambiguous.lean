/-
**Printed trees are unambiguous.** Two trees that are laid out like a document and print the same
text are the same tree, up to the characters that XML 1.0 does not have. No value and no content
of one of them can pass for an attribute, an element or a line of the other.

* `Node.cleaned`: a tree without the characters that XML 1.0 does not have.
* `Node.Tidy`: trees in which text stands alone in its element and every other child on a line of
  its own. Values and text may be anything.
* `printAttributes_inj`: attributes that print alike.
* `Node.print_inj`: tidy trees that print alike, whatever follows them.

Nothing is parsed here. A printed piece ends where a character follows that cannot be part of it
(`append_inj_of_forall`), so two equal texts are taken apart at the same places.
-/

import LaneChart.Proofs.Markup.Printing

namespace LaneChart.Markup

/-! ### Pieces of a text -/

/-- **A piece ends at the first item that cannot be part of it:** two lists that start with pieces
of one kind, after which something of another kind or nothing follows, have the same pieces. -/
theorem append_inj_of_forall {α : Type} (inside : α → Prop) {piece other rest after : List α}
    (isPiece : ∀ x ∈ piece, inside x) (isOther : ∀ x ∈ other, inside x)
    (restApart : ∀ x ∈ rest.head?, ¬inside x) (afterApart : ∀ x ∈ after.head?, ¬inside x)
    (same : piece ++ rest = other ++ after) : piece = other ∧ rest = after := by
  induction piece generalizing other with
  | nil =>
    cases other with
    | nil => exact ⟨rfl, same⟩
    | cons x other =>
      have first : rest.head? = some x := by rw [← List.nil_append rest, same]; rfl
      exact absurd (isOther x List.mem_cons_self) (restApart x first)
  | cons x piece ih =>
    cases other with
    | nil =>
      have first : after.head? = some x := by rw [← List.nil_append after, ← same]; rfl
      exact absurd (isPiece x List.mem_cons_self) (afterApart x first)
    | cons y other =>
      obtain ⟨sameHead, sameTail⟩ := List.cons.inj same
      obtain ⟨samePiece, sameRest⟩ := ih (fun z member => isPiece z (List.mem_cons_of_mem x member))
        (fun z member => isOther z (List.mem_cons_of_mem y member)) sameTail
      exact ⟨by rw [sameHead, samePiece], sameRest⟩

/-- `append_inj_of_forall` for pieces that are followed by an item of another kind. -/
theorem append_cons_inj_of_forall {α : Type} (inside : α → Prop) {piece other rest after : List α}
    {x y : α} (isPiece : ∀ z ∈ piece, inside z) (isOther : ∀ z ∈ other, inside z)
    (xApart : ¬inside x) (yApart : ¬inside y) (same : piece ++ x :: rest = other ++ y :: after) :
    piece = other ∧ x = y ∧ rest = after := by
  obtain ⟨samePiece, sameRest⟩ := append_inj_of_forall inside isPiece isOther
    (fun z first => by cases first; exact xApart) (fun z first => by cases first; exact yApart) same
  exact ⟨samePiece, List.cons.inj sameRest⟩

/-! ### Attributes -/

/-- Attributes whose values have no characters that XML 1.0 does not have. -/
def Attributes.cleaned (attributes : Attributes) : Attributes :=
  attributes.map fun (key, value) => (key, clean value)

/-- Names end at a character that no name has. -/
theorem name_inj {name other : String} {x y : Char} {rest after : List Char}
    (named : isName name.toList = true) (otherNamed : isName other.toList = true)
    (xApart : isNameChar x = false) (yApart : isNameChar y = false)
    (same : name.toList ++ x :: rest = other.toList ++ y :: after) :
    name = other ∧ x = y ∧ rest = after := by
  obtain ⟨sameName, sameRest⟩ := append_cons_inj_of_forall (fun c => isNameChar c = true)
    (isNameChar_of_mem named) (isNameChar_of_mem otherNamed) (by simp [xApart]) (by simp [yApart])
    same
  exact ⟨String.toList_inj.mp sameName, sameRest⟩

/-- The end of the inside of a tag: no attribute starts there. -/
def EndsTag (text : List Char) : Prop :=
  (∃ rest, text = '>' :: rest) ∨ ∃ rest, text = ' ' :: '/' :: rest

theorem endsTag_bracket (rest : List Char) : EndsTag ('>' :: rest) := .inl ⟨rest, rfl⟩

theorem endsTag_slash (rest : List Char) : EndsTag (' ' :: '/' :: rest) := .inr ⟨rest, rfl⟩

/-- No printed attribute is the end of a tag. -/
theorem not_endsTag_printAttributes {entry : String × String} (attributes : Attributes)
    (named : isName entry.1.toList = true) (rest : List Char) :
    ¬EndsTag (Node.printAttributes (entry :: attributes) ++ rest) := by
  obtain ⟨first, more, shape⟩ := List.exists_cons_of_ne_nil (ne_nil_of_isName named)
  have member : first ∈ entry.1.toList := by rw [shape]; exact List.mem_cons_self
  have notSlash : first ≠ '/' := fun same =>
    (plain_of_isNameChar (isNameChar_of_mem named first member)).2 (by rw [same]; decide)
  rintro (⟨after, same⟩ | ⟨after, same⟩)
  · simp [Node.printAttributes, Node.printAttribute] at same
  · simp [Node.printAttributes, Node.printAttribute, shape, notSlash] at same

/-- **Attributes that print alike** have the same keys and, without the characters that XML 1.0
does not have, the same values. -/
theorem printAttributes_inj {attributes other : Attributes} {rest after : List Char}
    (sound : SoundAttributes attributes) (otherSound : SoundAttributes other)
    (restEnds : EndsTag rest) (afterEnds : EndsTag after)
    (same : Node.printAttributes attributes ++ rest = Node.printAttributes other ++ after) :
    Attributes.cleaned attributes = Attributes.cleaned other ∧ rest = after := by
  induction attributes generalizing other with
  | nil =>
    cases other with
    | nil => exact ⟨rfl, same⟩
    | cons entry other =>
      have ends : EndsTag (Node.printAttributes (entry :: other) ++ after) := same ▸ restEnds
      exact absurd ends
        (not_endsTag_printAttributes other (otherSound.named entry List.mem_cons_self) after)
  | cons entry attributes ih =>
    cases other with
    | nil =>
      have ends : EndsTag (Node.printAttributes (entry :: attributes) ++ rest) := same ▸ afterEnds
      exact absurd ends
        (not_endsTag_printAttributes attributes (sound.named entry List.mem_cons_self) rest)
    | cons otherEntry other =>
      obtain ⟨key, value⟩ := entry
      obtain ⟨otherKey, otherValue⟩ := otherEntry
      have shape : ∀ (key value : String) (more : Attributes) (text : List Char),
          Node.printAttributes ((key, value) :: more) ++ text =
            ' ' :: (key.toList ++ '=' :: ('"' :: (escape value ++
              '"' :: (Node.printAttributes more ++ text)))) := by
        intro key value more text
        simp [Node.printAttributes, Node.printAttribute]
      rw [shape, shape] at same
      obtain ⟨sameKey, _, sameQuoted⟩ := name_inj (sound.named _ List.mem_cons_self)
        (otherSound.named _ List.mem_cons_self) (by decide) (by decide) (List.cons.inj same).2
      obtain ⟨sameValue, _, sameMore⟩ := append_cons_inj_of_forall (· ≠ '"')
        (fun c member => (escape_inert value c member).2.2.1)
        (fun c member => (escape_inert otherValue c member).2.2.1) (by simp) (by simp)
        (List.cons.inj sameQuoted).2
      obtain ⟨sameAttributes, sameRest⟩ := ih sound.tail otherSound.tail sameMore
      refine ⟨?_, sameRest⟩
      show (key, clean value) :: Attributes.cleaned attributes =
        (otherKey, clean otherValue) :: Attributes.cleaned other
      rw [show key = otherKey from sameKey, escape_inj sameValue, sameAttributes]

/-! ### Trees -/

namespace Node

mutual

/-- **A tree without the characters that XML 1.0 does not have.** -/
def cleaned : Node → Node
  | .element name attributes children => .element name attributes.cleaned (allCleaned children)
  | .empty name attributes => .empty name attributes.cleaned
  | .text content => .text (clean content)
  | .comment content => .comment content
  | .line indent => .line indent
termination_by structural node => node

/-- Several trees without the characters that XML 1.0 does not have. -/
def allCleaned : List Node → List Node
  | [] => []
  | node :: rest => node.cleaned :: allCleaned rest
termination_by structural nodes => nodes

end

theorem allCleaned_eq_map (nodes : List Node) : allCleaned nodes = nodes.map cleaned := by
  induction nodes with
  | nil => rfl
  | cons node nodes ih => rw [allCleaned, ih, List.map_cons]

theorem cleaned_alone (name : String) (attributes : Attributes) (content : String) :
    (Node.element name attributes [.text content]).cleaned =
      .element name attributes.cleaned [.text (clean content)] := rfl

theorem cleaned_block (indent : Nat) (name : String) (attributes : Attributes)
    (children : List Node) :
    (block indent name attributes children).cleaned =
      block indent name attributes.cleaned (children.map cleaned) := by
  rw [block, cleaned, allCleaned_eq_map, List.map_append, List.map_flatMap, block, List.flatMap_map]
  rfl

/-- A block shows its name, its attributes and its children. -/
theorem block_inj {indent other : Nat} {name otherName : String}
    {attributes otherAttributes : Attributes} {children others : List Node}
    (same : block indent name attributes children =
      block other otherName otherAttributes others) :
    name = otherName ∧ attributes = otherAttributes ∧ children = others := by
  obtain ⟨sameName, sameAttributes, sameLines⟩ := Node.element.inj same
  refine ⟨sameName, sameAttributes, ?_⟩
  clear same
  induction children generalizing others with
  | nil =>
    cases others with
    | nil => rfl
    | cons child others => cases (List.cons.inj sameLines).2
  | cons child children ih =>
    cases others with
    | nil => cases (List.cons.inj sameLines).2
    | cons otherChild others =>
      obtain ⟨sameChild, sameRest⟩ := List.cons.inj (List.cons.inj sameLines).2
      rw [sameChild, ih sameRest]

theorem printAll_eq_flatMap (nodes : List Node) : printAll nodes = nodes.flatMap print := by
  induction nodes with
  | nil => rfl
  | cons node nodes ih => rw [printAll, ih, List.flatMap_cons]

/-- **A tree that is laid out like a document.** -/
inductive Tidy : Node → Prop where
  | empty {name : String} {attributes : Attributes} : Tidy (.empty name attributes)
  | alone {name : String} {attributes : Attributes} {content : String} :
      Tidy (.element name attributes [.text content])
  | block {indent : Nat} {name : String} {attributes : Attributes} {children : List Node}
      (tidy : ∀ child ∈ children, Tidy child) : Tidy (.block indent name attributes children)

/-! ### Shapes of a printed tree -/

/-- Children with a line break in front of each. -/
def printLines (indent : Nat) (children : List Node) : List Char :=
  children.flatMap fun child => '\n' :: (List.replicate (indent + 2) ' ' ++ child.print)

theorem printLines_cons_append (indent : Nat) (child : Node) (children : List Node)
    (rest : List Char) :
    printLines indent (child :: children) ++ rest =
      '\n' :: (List.replicate (indent + 2) ' ' ++
        (child.print ++ (printLines indent children ++ rest))) := by
  simp [printLines]

theorem print_empty_append (name : String) (attributes : Attributes) (rest : List Char) :
    (Node.empty name attributes).print ++ rest =
      '<' :: (name.toList ++ (printAttributes attributes ++ ' ' :: '/' :: '>' :: rest)) := by
  simp [print]

theorem print_alone_append (name : String) (attributes : Attributes) (content : String)
    (rest : List Char) :
    (Node.element name attributes [.text content]).print ++ rest =
      '<' :: (name.toList ++ (printAttributes attributes ++
        '>' :: (escape content ++ '<' :: '/' :: (name.toList ++ '>' :: rest)))) := by
  simp [print, printAll]

theorem print_block_append (indent : Nat) (name : String) (attributes : Attributes)
    (children : List Node) (rest : List Char) :
    (Node.block indent name attributes children).print ++ rest =
      '<' :: (name.toList ++ (printAttributes attributes ++
        '>' :: (printLines indent children ++
          '\n' :: (List.replicate indent ' ' ++ '<' :: '/' :: (name.toList ++ '>' :: rest))))) := by
  have single : ∀ child : Node, [Node.line (indent + 2), child].flatMap print =
      '\n' :: (List.replicate (indent + 2) ' ' ++ child.print) := by
    intro child
    simp [print]
  have lines : (children.flatMap fun child => [Node.line (indent + 2), child]).flatMap print =
      printLines indent children := by
    rw [List.flatMap_assoc, printLines, funext single]
  rw [Node.block, print, printAll_eq_flatMap, List.flatMap_append, lines]
  simp [print]

/-- The text of a tidy tree starts with a bracket and no slash after it. -/
theorem print_append_ne_closing {node : Node} (sound : node.Sound) (tidy : node.Tidy)
    (rest : List Char) :
    (node.print ++ rest).head? = some '<' ∧ ∀ after, node.print ++ rest ≠ '<' :: '/' :: after := by
  have start : ∀ {name : String} {text : List Char}, isName name.toList = true →
      node.print ++ rest = '<' :: (name.toList ++ text) →
      (node.print ++ rest).head? = some '<' ∧
        ∀ after, node.print ++ rest ≠ '<' :: '/' :: after := by
    intro name text named printed
    obtain ⟨c, more, shape⟩ := List.exists_cons_of_ne_nil (ne_nil_of_isName named)
    have member : c ∈ name.toList := by rw [shape]; exact List.mem_cons_self
    rw [printed, shape]
    refine ⟨rfl, fun after same => ?_⟩
    have slash : c = '/' := (List.cons.inj (List.cons.inj same).2).1
    exact (plain_of_isNameChar (isNameChar_of_mem named c member)).2 (by rw [slash]; decide)
  cases tidy with
  | empty => exact start sound.1 (print_empty_append _ _ rest)
  | alone => exact start sound.1 (print_alone_append _ _ _ rest)
  | block _ => exact start sound.1 (print_block_append _ _ _ _ rest)

/-! ### Trees that print alike -/

/-- **Tags that start alike** have the same name and attributes. -/
theorem tag_inj {name other : String} {attributes otherAttributes : Attributes}
    {rest after : List Char} (named : isName name.toList = true)
    (otherNamed : isName other.toList = true) (sound : SoundAttributes attributes)
    (otherSound : SoundAttributes otherAttributes) (restEnds : EndsTag rest)
    (afterEnds : EndsTag after)
    (same : '<' :: (name.toList ++ (printAttributes attributes ++ rest)) =
      '<' :: (other.toList ++ (printAttributes otherAttributes ++ after))) :
    name = other ∧ attributes.cleaned = otherAttributes.cleaned ∧ rest = after := by
  have apart : ∀ {attributes : Attributes} {text : List Char}, EndsTag text →
      ∀ x ∈ (printAttributes attributes ++ text).head?, ¬isNameChar x = true := by
    intro attributes text ends x first
    cases attributes with
    | nil =>
      rcases ends with ⟨more, rfl⟩ | ⟨more, rfl⟩ <;> (cases first; decide)
    | cons entry attributes =>
      cases first
      decide
  obtain ⟨sameName, sameInside⟩ := append_inj_of_forall (fun c => isNameChar c = true)
    (isNameChar_of_mem named)
    (isNameChar_of_mem otherNamed) (apart restEnds) (apart afterEnds) (List.cons.inj same).2
  exact ⟨String.toList_inj.mp sameName,
    printAttributes_inj sound otherSound restEnds afterEnds sameInside⟩

/-- Whether the text of a tree shows the tree, whatever follows it. -/
def Legible (node : Node) : Prop :=
  ∀ {other : Node} {rest after : List Char}, other.Sound → other.Tidy →
    node.print ++ rest = other.print ++ after → node.cleaned = other.cleaned ∧ rest = after

/-- The spaces of a line end where markup starts. -/
theorem line_inj {indent other : Nat} {rest after : List Char} (restStarts : rest.head? = some '<')
    (afterStarts : after.head? = some '<')
    (same : '\n' :: (List.replicate indent ' ' ++ rest) =
      '\n' :: (List.replicate other ' ' ++ after)) : indent = other ∧ rest = after := by
  obtain ⟨sameSpaces, sameRest⟩ := append_inj_of_forall (· = ' ')
    (fun c member => (List.mem_replicate.mp member).2)
    (fun c member => (List.mem_replicate.mp member).2)
    (by rw [restStarts]; intro c first; cases first; decide)
    (by rw [afterStarts]; intro c first; cases first; decide) (List.cons.inj same).2
  have sameLength := congrArg List.length sameSpaces
  rw [List.length_replicate, List.length_replicate] at sameLength
  exact ⟨sameLength, sameRest⟩

/-- **Lines that print alike.** The line after the last child is told from a child by its slash. -/
theorem printLines_inj {indent other : Nat} {children others : List Node} {rest after : List Char}
    (sound : ∀ child ∈ children, child.Sound ∧ child.Tidy ∧ child.Legible)
    (otherSound : ∀ child ∈ others, child.Sound ∧ child.Tidy)
    (same : printLines indent children ++
        '\n' :: (List.replicate indent ' ' ++ '<' :: '/' :: rest) =
      printLines other others ++ '\n' :: (List.replicate other ' ' ++ '<' :: '/' :: after)) :
    indent = other ∧ children.map cleaned = others.map cleaned ∧ rest = after := by
  induction children generalizing others with
  | nil =>
    cases others with
    | nil =>
      obtain ⟨sameIndent, sameRest⟩ := line_inj rfl rfl same
      exact ⟨sameIndent, rfl, (List.cons.inj (List.cons.inj sameRest).2).2⟩
    | cons child others =>
      obtain ⟨childSound, childTidy⟩ := otherSound child List.mem_cons_self
      obtain ⟨starts, apart⟩ := print_append_ne_closing childSound childTidy _
      rw [printLines_cons_append] at same
      exact absurd (line_inj rfl starts same).2.symm (apart _)
  | cons child children ih =>
    obtain ⟨childSound, childTidy, legible⟩ := sound child List.mem_cons_self
    obtain ⟨starts, apart⟩ := print_append_ne_closing childSound childTidy _
    rw [printLines_cons_append] at same
    cases others with
    | nil => exact absurd (line_inj starts rfl same).2 (apart _)
    | cons otherChild others =>
      obtain ⟨otherChildSound, otherTidy⟩ := otherSound otherChild List.mem_cons_self
      obtain ⟨otherStarts, _⟩ := print_append_ne_closing otherChildSound otherTidy _
      rw [printLines_cons_append] at same
      obtain ⟨sameCleaned, sameLines⟩ :=
        legible otherChildSound otherTidy (line_inj starts otherStarts same).2
      obtain ⟨sameIndent, sameChildren, sameRest⟩ :=
        ih (fun node member => sound node (List.mem_cons_of_mem _ member))
          (fun node member => otherSound node (List.mem_cons_of_mem _ member)) sameLines
      exact ⟨sameIndent, by rw [List.map_cons, List.map_cons, sameCleaned, sameChildren], sameRest⟩

/-- What stands alone in an element is no line. -/
theorem alone_ne_lines {content : String} {indent : Nat} {children : List Node}
    {rest after : List Char} :
    escape content ++ '<' :: rest ≠ printLines indent children ++ '\n' :: after := by
  intro same
  have lineFeed : (printLines indent children ++ '\n' :: after).head? = some '\n' := by
    cases children <;> rfl
  rw [← same] at lineFeed
  cases shape : escape content with
  | nil =>
    rw [shape] at lineFeed
    exact absurd (Option.some.inj lineFeed) (by decide)
  | cons c more =>
    rw [shape] at lineFeed
    refine notMem_escape (c := '\n') (by decide) (by decide) content ?_
    rw [shape, Option.some.inj lineFeed]
    exact List.mem_cons_self

/-- The closing tags of elements with one name. -/
theorem closing_inj {name : String} {rest after : List Char}
    (same : name.toList ++ '>' :: rest = name.toList ++ '>' :: after) : rest = after :=
  (List.cons.inj (List.append_cancel_left same)).2

/-! ### One tree against another

Trees of different shapes differ right after the attributes of their first tag. -/

theorem legible_empty {name : String} {attributes : Attributes}
    (sound : (Node.empty name attributes).Sound) : (Node.empty name attributes).Legible := by
  obtain ⟨named, attributesSound⟩ := sound
  intro other rest after otherSound otherTidy same
  rw [print_empty_append] at same
  cases otherTidy with
  | empty =>
    rw [print_empty_append] at same
    obtain ⟨rfl, sameAttributes, sameRest⟩ := tag_inj named otherSound.1 attributesSound
      otherSound.2 (endsTag_slash _) (endsTag_slash _) same
    refine ⟨by rw [cleaned, cleaned, sameAttributes], ?_⟩
    simpa using sameRest
  | alone =>
    rw [print_alone_append] at same
    obtain ⟨_, _, sameRest⟩ := tag_inj named otherSound.1 attributesSound otherSound.2.1
      (endsTag_slash _) (endsTag_bracket _) same
    exact absurd (List.cons.inj sameRest).1 (by decide)
  | block _ =>
    rw [print_block_append] at same
    obtain ⟨_, _, sameRest⟩ := tag_inj named otherSound.1 attributesSound otherSound.2.1
      (endsTag_slash _) (endsTag_bracket _) same
    exact absurd (List.cons.inj sameRest).1 (by decide)

theorem legible_alone {name content : String} {attributes : Attributes}
    (sound : (Node.element name attributes [.text content]).Sound) :
    (Node.element name attributes [.text content]).Legible := by
  obtain ⟨named, attributesSound, _⟩ := sound
  intro other rest after otherSound otherTidy same
  rw [print_alone_append] at same
  cases otherTidy with
  | empty =>
    rw [print_empty_append] at same
    obtain ⟨_, _, sameRest⟩ := tag_inj named otherSound.1 attributesSound otherSound.2
      (endsTag_bracket _) (endsTag_slash _) same
    exact absurd (List.cons.inj sameRest).1 (by decide)
  | @alone _ _ otherContent =>
    rw [print_alone_append] at same
    obtain ⟨rfl, sameAttributes, sameInside⟩ := tag_inj named otherSound.1 attributesSound
      otherSound.2.1 (endsTag_bracket _) (endsTag_bracket _) same
    obtain ⟨sameContent, _, sameRest⟩ := append_cons_inj_of_forall (· ≠ '<')
      (fun c member => (escape_inert content c member).1)
      (fun c member => (escape_inert otherContent c member).1) (by simp) (by simp)
      (List.cons.inj sameInside).2
    refine ⟨?_, closing_inj (List.cons.inj sameRest).2⟩
    rw [cleaned_alone, cleaned_alone, sameAttributes, escape_inj sameContent]
  | block _ =>
    rw [print_block_append] at same
    obtain ⟨_, _, sameInside⟩ := tag_inj named otherSound.1 attributesSound otherSound.2.1
      (endsTag_bracket _) (endsTag_bracket _) same
    exact absurd (List.cons.inj sameInside).2 alone_ne_lines

theorem legible_block {indent : Nat} {name : String} {attributes : Attributes}
    {children : List Node} (sound : (Node.block indent name attributes children).Sound)
    (legible : ∀ child ∈ children, child.Sound ∧ child.Tidy ∧ child.Legible) :
    (Node.block indent name attributes children).Legible := by
  obtain ⟨named, attributesSound, _⟩ := sound
  intro other rest after otherSound otherTidy same
  rw [print_block_append] at same
  cases otherTidy with
  | empty =>
    rw [print_empty_append] at same
    obtain ⟨_, _, sameRest⟩ := tag_inj named otherSound.1 attributesSound otherSound.2
      (endsTag_bracket _) (endsTag_slash _) same
    exact absurd (List.cons.inj sameRest).1 (by decide)
  | alone =>
    rw [print_alone_append] at same
    obtain ⟨_, _, sameInside⟩ := tag_inj named otherSound.1 attributesSound otherSound.2.1
      (endsTag_bracket _) (endsTag_bracket _) same
    exact absurd (List.cons.inj sameInside).2.symm alone_ne_lines
  | @block otherIndent _ _ others othersTidy =>
    have othersSound := (allSound_lined otherIndent others).mp otherSound.2.2
    rw [print_block_append] at same
    obtain ⟨rfl, sameAttributes, sameInside⟩ := tag_inj named otherSound.1 attributesSound
      otherSound.2.1 (endsTag_bracket _) (endsTag_bracket _) same
    obtain ⟨rfl, sameChildren, sameRest⟩ := printLines_inj legible
      (fun child member => ⟨othersSound child member, othersTidy child member⟩)
      (List.cons.inj sameInside).2
    refine ⟨?_, closing_inj sameRest⟩
    rw [cleaned_block, cleaned_block, sameAttributes, sameChildren]

/-- **Tidy trees that print alike,** whatever follows them, are the same tree without the
characters that XML 1.0 does not have. -/
theorem legible_of_tidy {node : Node} (sound : node.Sound) (tidy : node.Tidy) : node.Legible := by
  induction tidy with
  | empty => exact legible_empty sound
  | alone => exact legible_alone sound
  | @block indent _ _ children tidy ih =>
    have childrenSound := (allSound_lined indent children).mp sound.2.2
    apply legible_block sound
    intro child member
    exact ⟨childrenSound child member, tidy child member,
      ih child member (childrenSound child member)⟩

/-- **Printed trees are unambiguous.** -/
theorem print_inj {node other : Node} (sound : node.Sound) (tidy : node.Tidy)
    (otherSound : other.Sound) (otherTidy : other.Tidy) (same : node.print = other.print) :
    node.cleaned = other.cleaned := by
  have padded : node.print ++ [] = other.print ++ [] := by rw [same]
  exact (legible_of_tidy sound tidy otherSound otherTidy padded).1

end Node

end LaneChart.Markup
