/-
**Well-formed documents, however they are written.** XML leaves a choice of how a tree is written:
how the characters in its values and texts are, where blanks stand in its tags, which quotes its
values have, what is put into CDATA sections, and which comments and processing instructions stand
where they mean nothing. Here is everything that XML 1.0 allows for a document without declarations
of its own, and a little more: instructions only have to start like one, and there may be several
document types.

* `WritesTag`: the ways of writing the inside of a tag.
* `WritesText`: the ways of writing a text between tags.
* `Asides`: what may stand around the root of a document.
* `Node.Writes`, `Node.WritesDocument`: the ways of writing a tree and a whole document.
* `Token.next_data`, `next_instruction`, `next_doctype`: the pieces that no printed tree has.
* `Node.writes_print`: printing is one of the ways of writing a tree.
-/

import LaneChart.Proofs.Markup.Unambiguous

namespace LaneChart.Markup

/-! ### Ways of writing a tree -/

/-- **The ways of writing the values of attributes.** -/
def Attributes.SpelledAs (attributes : Attributes) (items : List Attribute) : Prop :=
  List.Forall₂ (fun entry item => item.key = entry.1.toList ∧ Spelled entry.2.toList item.value)
    attributes items

/-- **The ways of writing the inside of a tag.** -/
inductive WritesTag (name : String) (attributes : Attributes) : List Char → Prop where
  | intro {items : List Attribute} {inside gap : List Char} (named : isName name.toList = true)
      (sound : SoundAttributes attributes) (spelled : attributes.SpelledAs items)
      (written : WritesAttributes items inside) (blank : ∀ c ∈ gap, Text.isBlank c = true) :
      WritesTag name attributes (name.toList ++ (inside ++ gap))

/-- **The ways of writing a text** between tags: character by character, or in CDATA sections. -/
inductive WritesText : List Char → List Char → Prop where
  | nil : WritesText [] []
  | char {c : Char} {text written rest : List Char} (first : Spells c written)
      (more : WritesText text rest) : WritesText (c :: text) (written ++ rest)
  | data {data text rest : List Char} (legal : ∀ c ∈ data, isXmlChar c = true)
      (ends : ¬ [']', ']', '>'] <:+: data) (more : WritesText text rest) :
      WritesText (data ++ text)
        (['<', '!', '[', 'C', 'D', 'A', 'T', 'A', '['] ++ data ++ [']', ']', '>'] ++ rest)

/-- **A processing instruction,** or the declaration of a document. -/
inductive IsInstruction : List Char → Prop where
  | intro {first : Char} {more : List Char} (start : isNameStart first = true)
      (ends : ¬ ['?', '>'] <:+: first :: more) :
      IsInstruction (['<', '?'] ++ (first :: more) ++ ['?', '>'])

/-- **Any number of instructions,** one after the other. -/
inductive Instructions : List Char → Prop where
  | nil : Instructions []
  | cons {instruction rest : List Char} (first : IsInstruction instruction)
      (more : Instructions rest) : Instructions (instruction ++ rest)

/-- **What may stand around the root:** blanks, comments, instructions and document types without
declarations in them. -/
inductive Asides : List Char → Prop where
  | nil : Asides []
  | blank {c : Char} {rest : List Char} (blank : Text.isBlank c = true) (more : Asides rest) :
      Asides (c :: rest)
  | comment {content rest : List Char} (sound : isCommentText content = true)
      (more : Asides rest) : Asides (['<', '!', '-', '-'] ++ content ++ ['-', '-', '>'] ++ rest)
  | instruction {instruction rest : List Char} (sound : IsInstruction instruction)
      (more : Asides rest) : Asides (instruction ++ rest)
  | doctype {content rest : List Char} (named : content.any (!Text.isBlank ·) = true)
      (plain : ∀ c ∈ content, c ≠ '<' ∧ c ≠ '>') (more : Asides rest) :
      Asides (['<', '!', 'D', 'O', 'C', 'T', 'Y', 'P', 'E'] ++ content ++ ['>'] ++ rest)

namespace Node

mutual

/-- **The ways of writing a tree.** -/
inductive Writes : Node → List Char → Prop where
  | element {name : String} {attributes : Attributes} {children : List Node}
      {tag content gap : List Char} (opens : WritesTag name attributes tag)
      (inner : WritesAll children content) (blank : ∀ c ∈ gap, Text.isBlank c = true) :
      Writes (.element name attributes children)
        ('<' :: tag ++ ['>'] ++ content ++ ('<' :: '/' :: (name.toList ++ gap)) ++ ['>'])
  | empty {name : String} {attributes : Attributes} {tag : List Char}
      (closed : WritesTag name attributes tag) :
      Writes (.empty name attributes) ('<' :: tag ++ ['/', '>'])
  | text {content : String} {written : List Char} (spelled : WritesText content.toList written) :
      Writes (.text content) written
  | comment {content : String} (sound : isCommentText content.toList = true) :
      Writes (.comment content) (['<', '!', '-', '-'] ++ content.toList ++ ['-', '-', '>'])
  | line (indent : Nat) : Writes (.line indent) ('\n' :: List.replicate indent ' ')

/-- **The ways of writing what is in an element,** with instructions anywhere. -/
inductive WritesAll : List Node → List Char → Prop where
  | nil {apart : List Char} (instructions : Instructions apart) : WritesAll [] apart
  | cons {node : Node} {nodes : List Node} {apart text rest : List Char}
      (instructions : Instructions apart) (first : Writes node text) (more : WritesAll nodes rest) :
      WritesAll (node :: nodes) (apart ++ text ++ rest)

end

/-- Whether a node is an element, with tags around it or empty. -/
def isElement : Node → Bool
  | .element _ _ _ | .empty _ _ => true
  | .text _ | .comment _ | .line _ => false

/-- **The ways of writing a document** with a root. A byte order mark may stand in front of it. -/
inductive WritesDocument (root : Node) : List Char → Prop where
  | intro {mark before text after : List Char} (marked : mark = [] ∨ mark = ['\uFEFF'])
      (above : Asides before) (element : root.isElement = true) (written : Writes root text)
      (below : Asides after) : WritesDocument root (mark ++ (before ++ text ++ after))

end Node

/-! ### Pieces that no printed tree has -/

theorem Attributes.SpelledAs.readsAs {attributes : Attributes} {items : List Attribute}
    (spelled : attributes.SpelledAs items) : attributes.ReadsAs items := by
  refine spelled.imp fun entry item same => ⟨same.1, ?_⟩
  have kept : (clean entry.2).toList = entry.2.toList := by
    rw [clean, String.toList_ofList]
    exact List.filter_eq_self.mpr same.2.legal
  rw [kept]
  exact same.2.unescape

namespace Token

/-- **A CDATA section.** -/
theorem next_data {data : List Char} (ends : ¬ [']', ']', '>'] <:+: data) (rest : List Char) :
    next ('!' :: '[' :: 'C' :: 'D' :: 'A' :: 'T' :: 'A' :: '[' ::
      (data ++ ']' :: ']' :: '>' :: rest)) = .ok (.other, rest) := by
  have single : '>' ∉ [']', ']'] := by decide
  have cut : Text.cutAt? [']', ']', '>'] (data ++ ']' :: ']' :: '>' :: rest) = some (data, rest) :=
    Text.cutAt_of_absent single ends rest
  show between ['[', 'C', 'D', 'A', 'T', 'A', '['] [']', ']', '>'] .unclosedData
    ('[' :: 'C' :: 'D' :: 'A' :: 'T' :: 'A' :: '[' :: (data ++ ']' :: ']' :: '>' :: rest)) = _
  simp only [between, Text.starts, beq_self_eq_true, Bool.true_and, if_true, List.length_cons,
    List.length_nil, List.drop_succ_cons, List.drop_zero, cut]

/-- **An instruction.** -/
theorem next_instruction {first : Char} {more : List Char} (start : isNameStart first = true)
    (ends : ¬ ['?', '>'] <:+: first :: more) (rest : List Char) :
    next ('?' :: first :: (more ++ '?' :: '>' :: rest)) = .ok (.other, rest) := by
  have single : '>' ∉ ['?'] := by decide
  have cut : Text.cutAt? ['?', '>'] (first :: more ++ '?' :: '>' :: rest) =
      some (first :: more, rest) := Text.cutAt_of_absent single ends rest
  have other : first ≠ '>' := by
    rintro rfl
    cases start
  show processing (first :: (more ++ '?' :: '>' :: rest)) = _
  rw [List.cons_append] at cut
  unfold processing
  rw [List.head?_cons, if_neg (fun same => other (Option.some.inj same)), cut]

theorem cutBalanced_plain {content : List Char} (plain : ∀ c ∈ content, c ≠ '<' ∧ c ≠ '>')
    (rest : List Char) : cutBalanced? 0 (content ++ '>' :: rest) = some (content, rest) := by
  induction content with
  | nil => rfl
  | cons c content ih =>
    obtain ⟨notOpening, notClosing⟩ := plain c List.mem_cons_self
    rw [List.cons_append, cutBalanced?, if_neg notClosing, if_neg notOpening,
      ih fun d member => plain d (List.mem_cons_of_mem c member)]
    rfl

/-- **A document type.** -/
theorem next_doctype {content : List Char} (named : content.any (!Text.isBlank ·) = true)
    (plain : ∀ c ∈ content, c ≠ '<' ∧ c ≠ '>') (rest : List Char) :
    next ('!' :: 'D' :: 'O' :: 'C' :: 'T' :: 'Y' :: 'P' :: 'E' :: (content ++ '>' :: rest)) =
      .ok (.other, rest) := by
  let word := ['D', 'O', 'C', 'T', 'Y', 'P', 'E']
  have cut : cutBalanced? 0 (word ++ content ++ '>' :: rest) = some (word ++ content, rest) := by
    refine cutBalanced_plain (List.forall_mem_append.mpr ⟨?_, plain⟩) rest
    simp [word]
  have filled : content.all Text.isBlank = false := by
    simpa using named
  show doctype (word ++ content ++ '>' :: rest) = _
  have upper : ((word ++ content).take 7).map Char.toUpper = word := rfl
  have named : ((word ++ content).drop 7).all Text.isBlank = false := filled
  unfold doctype
  rw [cut]
  simp only [upper, named, word, ne_eq, not_true_eq_false, if_false, Bool.false_eq_true]

end Token

/-! ### Printing -/

theorem Spelled.writesText {text written : List Char} (spelled : Spelled text written) :
    WritesText text written := by
  induction spelled with
  | nil => exact .nil
  | cons first _ ih => exact .char first ih

theorem Attributes.spelledAs_print (attributes : Attributes) :
    attributes.cleaned.SpelledAs (attributes.map writtenAttribute) := by
  refine List.forall₂_map_left_iff.mpr (List.forall₂_map_right_iff.mpr ?_)
  refine List.forall₂_same.mpr fun entry _ => ⟨rfl, ?_⟩
  show Spelled (clean entry.2).toList (escape entry.2)
  rw [clean, String.toList_ofList]
  exact spelled_escape entry.2.toList

theorem SoundAttributes.cleaned {attributes : Attributes} (sound : SoundAttributes attributes) :
    SoundAttributes attributes.cleaned where
  named := by
    intro entry member
    obtain ⟨other, known, rfl⟩ := List.mem_map.mp member
    exact sound.named other known
  distinct := by
    have keys : attributes.cleaned.map (·.1) = attributes.map (·.1) := by
      rw [Attributes.cleaned, List.map_map]
      rfl
    rw [keys]
    exact sound.distinct

theorem writesTag_print {name : String} {attributes : Attributes}
    (named : isName name.toList = true) (sound : SoundAttributes attributes) {gap : List Char}
    (blank : ∀ c ∈ gap, Text.isBlank c = true) :
    WritesTag name attributes.cleaned (name.toList ++ (Node.printAttributes attributes ++ gap)) :=
  .intro named sound.cleaned attributes.spelledAs_print (writesAttributes_print attributes) blank

namespace Node

mutual

/-- **Printing is one of the ways of writing a tree.** -/
theorem writes_print (node : Node) (sound : node.Sound) : node.cleaned.Writes node.print := by
  cases node with
  | element name attributes children =>
    obtain ⟨named, soundAttributes, soundChildren⟩ := sound
    have none : ∀ c ∈ [], Text.isBlank c = true := List.forall_mem_nil _
    have whole := Writes.element (writesTag_print named soundAttributes none)
      (writesAll_print children soundChildren) none
    simpa [print, cleaned] using whole
  | empty name attributes =>
    have space : ∀ c ∈ [' '], Text.isBlank c = true := by simp [Text.isBlank]
    have whole := Writes.empty (writesTag_print sound.1 sound.2 space)
    simpa [print, cleaned] using whole
  | text content =>
    refine .text ?_
    rw [clean, String.toList_ofList]
    exact (spelled_escape content.toList).writesText
  | comment content => exact .comment sound
  | line indent => exact .line indent
termination_by structural node

theorem writesAll_print (nodes : List Node) (sound : AllSound nodes) :
    WritesAll (allCleaned nodes) (printAll nodes) := by
  cases nodes with
  | nil => exact .nil .nil
  | cons node nodes =>
    exact .cons .nil (writes_print node sound.1) (writesAll_print nodes sound.2)
termination_by structural nodes

end

end Node

end LaneChart.Markup
