/-
**Scanning a printed tree.** The pieces of a printed tree are the pieces of the tree: a start tag
and an end tag around the pieces of the children, one tag for an empty element, one piece for a
comment, and none for text and line breaks.

* `Node.Sound`: trees whose names are names, with comments that can be comments. Values and text
  may be anything.
* `Node.tokens`: the pieces of a tree.
* `Node.lined`: children on lines of their own.
* `Token.next_opening`, `next_selfClosing`, `next_closing`, `next_comment`: one law per shape, for
  any way of writing the attributes.
* `Node.pieces_print`: the pieces of a printed tree, whatever text follows.
-/

import LaneChart.Proofs.Markup.Attributes
import LaneChart.Proofs.Markup.Scanning

namespace LaneChart.Markup

/-! ### Trees -/

/-- Whether a text can stand in a comment: it has no two hyphens in a row and does not end with
one. -/
def isCommentText : List Char → Bool
  | [] => true
  | '-' :: rest => rest.head?.any (· ≠ '-') && isCommentText rest
  | c :: rest => isXmlChar c && isCommentText rest

namespace Node

mutual

/-- **A tree that can be printed as XML.** -/
def Sound : Node → Prop
  | .element name attributes children =>
    isName name.toList = true ∧ SoundAttributes attributes ∧ AllSound children
  | .empty name attributes => isName name.toList = true ∧ SoundAttributes attributes
  | .text _ => True
  | .comment content => isCommentText content.toList = true
  | .line _ => True
termination_by structural node => node

/-- Several trees that can be printed as XML. -/
def AllSound : List Node → Prop
  | [] => True
  | node :: rest => node.Sound ∧ AllSound rest
termination_by structural nodes => nodes

end

mutual

/-- **The pieces of a tree.** -/
def tokens : Node → List Token
  | .element name attributes children =>
    .opening ⟨name.toList, printAttributes attributes⟩ :: allTokens children ++
      [.closing name.toList]
  | .empty name attributes => [.selfClosing ⟨name.toList, printAttributes attributes ++ [' ']⟩]
  | .text _ => []
  | .comment _ => [.other]
  | .line _ => []
termination_by structural node => node

/-- The pieces of several trees. -/
def allTokens : List Node → List Token
  | [] => []
  | node :: rest => node.tokens ++ allTokens rest
termination_by structural nodes => nodes

end

/-! ### Children on lines of their own -/

/-- The children of a block, each with a line break in front. -/
def lined (indent : Nat) (children : List Node) : List Node :=
  (children.flatMap fun child => [.line (indent + 2), child]) ++ [.line indent]

theorem block_eq (indent : Nat) (name : String) (attributes : Attributes) (children : List Node) :
    block indent name attributes children = .element name attributes (lined indent children) := rfl

theorem allSound_iff (nodes : List Node) : AllSound nodes ↔ ∀ node ∈ nodes, node.Sound := by
  induction nodes with
  | nil => simp [AllSound]
  | cons node nodes ih => simp [AllSound, ih]

/-- Children that can be printed can be printed on lines of their own, and conversely. -/
theorem allSound_lined (indent : Nat) (children : List Node) :
    AllSound (lined indent children) ↔ ∀ child ∈ children, child.Sound := by
  rw [allSound_iff]
  refine ⟨fun sound child known => sound child ?_, fun sound node member => ?_⟩
  · exact List.mem_append_left _ (List.mem_flatMap.mpr ⟨child, known, by simp⟩)
  · rcases List.mem_append.mp member with inside | last
    · obtain ⟨child, known, here⟩ := List.mem_flatMap.mp inside
      rcases List.mem_cons.mp here with rfl | same
      · exact trivial
      · rw [List.mem_singleton.mp same]
        exact sound child known
    · rw [List.mem_singleton.mp last]
      exact trivial

theorem sound_block {indent : Nat} {name : String} {attributes : Attributes}
    {children : List Node} (named : isName name.toList = true)
    (soundAttributes : SoundAttributes attributes)
    (soundChildren : ∀ child ∈ children, child.Sound) :
    (block indent name attributes children).Sound :=
  ⟨named, soundAttributes, (allSound_lined indent children).mpr soundChildren⟩

end Node

/-! ### One piece -/

namespace Token

theorem plain_of_isName {name : List Char} (named : isName name = true) :
    ∀ c ∈ name, c ≠ '>' ∧ c ≠ '"' ∧ c ≠ '\x27' := by
  intro c member
  have special := (plain_of_isNameChar (isNameChar_of_mem named c member)).2
  refine ⟨?_, ?_, ?_⟩ <;> exact fun same => special (by rw [same]; decide)

theorem plain_of_isBlank {c : Char} (blank : Text.isBlank c = true) :
    c ≠ '>' ∧ c ≠ '"' ∧ c ≠ '\x27' := by
  refine ⟨?_, ?_, ?_⟩ <;>
  · rintro rfl
    cases blank

/-- A written attribute is its value between two quotes, with plain text in front of it. -/
theorem exists_quoted {item : Attribute} (named : isName item.key = true) {text : List Char}
    (written : WritesAttribute item text) :
    ∃ head quote, text = head ++ (quote :: item.value ++ [quote]) ∧
      (∀ c ∈ head, c ≠ '>' ∧ c ≠ '"' ∧ c ≠ '\x27') ∧ (quote = '"' ∨ quote = '\x27') ∧
      quote ∉ item.value := by
  cases written with
  | @intro front before after quote apart blank isQuote absent =>
    refine ⟨front ++ item.key ++ before ++ '=' :: after, quote, by simp, fun c member => ?_,
      isQuote, absent⟩
    by_cases inKey : c ∈ item.key
    · exact plain_of_isName named c inKey
    · by_cases equals : c = '='
      · rw [equals]
        decide
      · refine plain_of_isBlank (blank c ?_)
        simpa [inKey, equals, or_assoc] using member

/-- Attributes belong to the tag. -/
theorem cutTag_attributes {items : List Attribute} {inside : List Char}
    (written : WritesAttributes items inside) (named : ∀ item ∈ items, isName item.key = true)
    {text content rest : List Char} (taken : cutTag? none text = some (content, rest)) :
    cutTag? none (inside ++ text) = some (inside ++ content, rest) := by
  induction written with
  | nil => exact taken
  | @cons item items written later first more ih =>
    have further := ih fun other member => named other (List.mem_cons_of_mem _ member)
    obtain ⟨head, quote, rfl, plain, isQuote, absent⟩ :=
      exists_quoted (named item List.mem_cons_self) first
    have shape : ∀ tail : List Char, head ++ (quote :: item.value ++ [quote]) ++ later ++ tail =
        head ++ (quote :: item.value ++ quote :: (later ++ tail)) := by
      intro tail
      simp
    rw [shape, shape]
    exact cutTag_plain plain (cutTag_quoted isQuote absent further)

/-- Blanks at its end belong to the tag. -/
theorem cutTag_blank {gap : List Char} (blank : ∀ c ∈ gap, Text.isBlank c = true)
    {text content rest : List Char} (taken : cutTag? none text = some (content, rest)) :
    cutTag? none (gap ++ text) = some (gap ++ content, rest) :=
  cutTag_plain (fun c member => plain_of_isBlank (blank c member)) taken

/-- The name of a tag ends where its inside starts. -/
theorem tag_ofContent {name : List Char} (solid : ∀ c ∈ name, Text.isBlank c = false)
    {inside : List Char} (apart : ∀ c ∈ inside.head?, Text.isBlank c = true) :
    Tag.ofContent (name ++ inside) = ⟨name, inside⟩ := by
  have inName : ∀ c ∈ name, (!Text.isBlank c) = true := fun c member => by
    rw [solid c member]
    rfl
  unfold Tag.ofContent
  rw [List.takeWhile_append_of_pos inName, List.dropWhile_append_of_pos inName]
  cases inside with
  | nil => simp
  | cons c inside =>
    have blank : Text.isBlank c = true := apart c rfl
    rw [List.takeWhile_cons_of_neg (by simp [blank]), List.dropWhile_cons_of_neg (by simp [blank]),
      List.append_nil]

/-- A tag that starts with a name is cut off at its closing angle bracket. -/
theorem next_of_name {name : List Char} (named : isName name = true) {text content rest : List Char}
    (taken : cutTag? none text = some (content, rest)) :
    next (name ++ text) = .ok (ofContent (name ++ content), rest) := by
  obtain ⟨first, more, rfl⟩ := List.exists_cons_of_ne_nil (ne_nil_of_isName named)
  have special := (plain_of_isNameChar (isNameChar_of_mem named first List.mem_cons_self)).2
  have cut := cutTag_plain (plain_of_isName named) taken
  rw [List.cons_append] at cut ⊢
  unfold next
  split
  · rename_i same
    cases same
    exact absurd (by decide) special
  · rename_i same
    cases same
    exact absurd (by decide) special
  · rw [cut]

/-- What starts with a name is no end tag. -/
theorem ofContent_of_name {name : List Char} (named : isName name = true) (inside : List Char) :
    ofContent (name ++ inside) =
      if (name ++ inside).getLast? = some '/' then
        .selfClosing (.ofContent (name ++ inside).dropLast)
      else .opening (.ofContent (name ++ inside)) := by
  obtain ⟨first, more, rfl⟩ := List.exists_cons_of_ne_nil (ne_nil_of_isName named)
  have special := (plain_of_isNameChar (isNameChar_of_mem named first List.mem_cons_self)).2
  rw [List.cons_append]
  unfold ofContent
  split
  · rename_i same
    cases same
    exact absurd (by decide) special
  · rfl

theorem getLast_append_ne {front back : List Char} {c : Char} (before : front.getLast? ≠ some c)
    (after : back.getLast? ≠ some c) : (front ++ back).getLast? ≠ some c := by
  rw [List.getLast?_append]
  cases last : back.getLast? with
  | none => exact before
  | some d =>
    rw [last] at after
    exact after

theorem getLast_attributes {items : List Attribute} {inside : List Char}
    (written : WritesAttributes items inside) : inside.getLast? ≠ some '/' := by
  induction written with
  | nil => exact nofun
  | cons first _ ih =>
    refine getLast_append_ne ?_ ih
    cases first with
    | @intro front before after quote _ _ isQuote _ =>
      rw [← List.cons_append, ← List.cons_append, ← List.append_assoc, ← List.append_assoc,
        List.getLast?_concat]
      rcases isQuote with rfl | rfl <;> decide

/-- The inside of a start tag does not end with a slash: it ends with its name, with a quote or with
a blank. -/
theorem getLast_opening {name : List Char} (named : isName name = true) {items : List Attribute}
    {inside : List Char} (written : WritesAttributes items inside) {gap : List Char}
    (blank : ∀ c ∈ gap, Text.isBlank c = true) :
    (name ++ (inside ++ gap)).getLast? ≠ some '/' := by
  refine getLast_append_ne (fun last => ?_)
    (getLast_append_ne (getLast_attributes written) fun last => ?_)
  · have member := List.mem_of_getLast? last
    exact (plain_of_isNameChar (isNameChar_of_mem named _ member)).2 (by decide)
  · have slash := blank _ (List.mem_of_getLast? last)
    cases slash

theorem head_blank {items : List Attribute} {inside : List Char}
    (written : WritesAttributes items inside) {gap : List Char}
    (blank : ∀ c ∈ gap, Text.isBlank c = true) :
    ∀ c ∈ (inside ++ gap).head?, Text.isBlank c = true :=
  written.head_blank fun c member => blank c (List.mem_of_mem_head? member)

theorem closingName_of_isName {name : List Char} (named : isName name = true) {gap : List Char}
    (blank : ∀ c ∈ gap, Text.isBlank c = true) : closingName (name ++ gap) = name := by
  have kept : ((name ++ gap).reverse.dropWhile Text.isBlank).reverse = name := by
    have blankToo : ∀ c ∈ gap.reverse, Text.isBlank c = true :=
      fun c member => blank c (List.mem_reverse.mp member)
    rw [List.reverse_append, List.dropWhile_append_of_pos blankToo]
    rcases List.eq_nil_or_concat name with rfl | ⟨front, last, rfl⟩
    · rfl
    · have notBlank : Text.isBlank last = false :=
        not_blank_of_isName named last (by simp)
      rw [List.concat_eq_append, List.reverse_concat,
        List.dropWhile_cons_of_neg (by simp [notBlank]), List.reverse_cons, List.reverse_reverse]
  have filled : name.isEmpty = false := List.isEmpty_eq_false_iff.mpr (ne_nil_of_isName named)
  unfold closingName
  simp only [kept, filled, Bool.false_eq_true, if_false]

/-! ### Comments -/

theorem isCommentText_cons {c : Char} {content : List Char}
    (sound : isCommentText (c :: content) = true) :
    isCommentText content = true ∧ (c = '-' → content.head? ≠ some '-') := by
  by_cases hyphen : c = '-'
  · subst hyphen
    obtain ⟨next, later⟩ := Bool.and_eq_true_iff.mp sound
    refine ⟨later, fun _ again => ?_⟩
    rw [again] at next
    cases next
  · rw [isCommentText.eq_3 _ _ hyphen] at sound
    exact ⟨(Bool.and_eq_true_iff.mp sound).2, fun same => absurd same hyphen⟩

/-- A text that can stand in a comment has no two hyphens in a row. -/
theorem hyphens_notInfix {content : List Char} (sound : isCommentText content = true) :
    ¬ ['-', '-'] <:+: content := by
  induction content with
  | nil => simp
  | cons c content ih =>
    obtain ⟨later, apart⟩ := isCommentText_cons sound
    rw [List.infix_cons_iff]
    rintro (⟨rest, here⟩ | inside)
    · obtain ⟨same, next⟩ := List.cons.inj here
      refine apart same.symm ?_
      rw [← next]
      rfl
    · exact ih later inside

/-- A comment ends at its own end. -/
theorem cutAt_comment {content : List Char} (sound : isCommentText content = true)
    (rest : List Char) :
    Text.cutAt? ['-', '-', '>'] (content ++ '-' :: '-' :: '>' :: rest) = some (content, rest) := by
  have absent : ¬ ['-', '-'] ++ ['>'] <:+: content := fun inside =>
    hyphens_notInfix sound ((List.prefix_append ['-', '-'] ['>']).isInfix.trans inside)
  exact Text.cutAt_of_absent (by decide) absent rest

/-! ### Shapes -/

/-- **A start tag.** -/
theorem next_opening {name : List Char} (named : isName name = true) {items : List Attribute}
    {inside : List Char} (written : WritesAttributes items inside)
    (keys : ∀ item ∈ items, isName item.key = true) {gap : List Char}
    (blank : ∀ c ∈ gap, Text.isBlank c = true) (rest : List Char) :
    next (name ++ (inside ++ (gap ++ '>' :: rest))) =
      .ok (.opening ⟨name, inside ++ gap⟩, rest) := by
  have ends : cutTag? none ('>' :: rest) = some ([], rest) := rfl
  rw [next_of_name named (cutTag_attributes written keys (cutTag_blank blank ends)),
    List.append_nil, ofContent_of_name named, if_neg (getLast_opening named written blank),
    tag_ofContent (not_blank_of_isName named) (head_blank written blank)]

/-- **An empty element.** -/
theorem next_selfClosing {name : List Char} (named : isName name = true) {items : List Attribute}
    {inside : List Char} (written : WritesAttributes items inside)
    (keys : ∀ item ∈ items, isName item.key = true) {gap : List Char}
    (blank : ∀ c ∈ gap, Text.isBlank c = true) (rest : List Char) :
    next (name ++ (inside ++ (gap ++ '/' :: '>' :: rest))) =
      .ok (.selfClosing ⟨name, inside ++ gap⟩, rest) := by
  have ends : cutTag? none ('/' :: '>' :: rest) = some (['/'], rest) := rfl
  have shape : name ++ (inside ++ (gap ++ ['/'])) = (name ++ (inside ++ gap)) ++ ['/'] := by simp
  rw [next_of_name named (cutTag_attributes written keys (cutTag_blank blank ends)),
    ofContent_of_name named, shape, List.getLast?_concat, if_pos rfl, List.dropLast_concat,
    tag_ofContent (not_blank_of_isName named) (head_blank written blank)]

/-- **An end tag.** -/
theorem next_closing {name : List Char} (named : isName name = true) {gap : List Char}
    (blank : ∀ c ∈ gap, Text.isBlank c = true) (rest : List Char) :
    next ('/' :: (name ++ (gap ++ '>' :: rest))) = .ok (.closing name, rest) := by
  have plain : ∀ c ∈ '/' :: name, c ≠ '>' ∧ c ≠ '"' ∧ c ≠ '\x27' := by
    intro c member
    rcases List.mem_cons.mp member with rfl | inName
    · decide
    · exact plain_of_isName named c inName
  have ends : cutTag? none ('>' :: rest) = some ([], rest) := rfl
  have cut := cutTag_plain plain (cutTag_blank blank ends)
  rw [List.append_nil, List.cons_append, List.cons_append] at cut
  have closing : ofContent ('/' :: (name ++ gap)) = .closing (closingName (name ++ gap)) := rfl
  unfold next
  simp only [cut, closing, closingName_of_isName named blank]
  rfl

/-- **A comment.** -/
theorem next_comment {content : List Char} (sound : isCommentText content = true)
    (rest : List Char) :
    next ('!' :: '-' :: '-' :: (content ++ '-' :: '-' :: '>' :: rest)) = .ok (.other, rest) := by
  show between ['-', '-'] ['-', '-', '>'] .unclosedComment
    ('-' :: '-' :: (content ++ '-' :: '-' :: '>' :: rest)) = _
  have cut := cutAt_comment sound rest
  simp only [between, Text.starts, beq_self_eq_true, Bool.true_and, if_true, List.length_cons,
    List.length_nil, List.drop_succ_cons, List.drop_zero, cut]

end Token

/-! ### Trees -/

namespace Node

mutual

/-- **The pieces of a printed tree are the pieces of the tree,** whatever text follows. -/
theorem pieces_print (node : Node) (sound : node.Sound) (rest : List Char) :
    Scan.pieces (node.print ++ rest) = (Scan.pieces rest).prepend node.tokens := by
  cases node with
  | element name attributes children =>
    obtain ⟨named, soundAttributes, soundChildren⟩ := sound
    have shape : (Node.element name attributes children).print ++ rest =
        '<' :: (name.toList ++ (printAttributes attributes ++ '>' :: (printAll children ++
          '<' :: ('/' :: (name.toList ++ '>' :: rest))))) := by
      simp [print]
    have none : ∀ c ∈ [], Text.isBlank c = true := List.forall_mem_nil _
    have opens := Token.next_opening named (writesAttributes_print attributes)
      (named_writtenAttribute soundAttributes) none
    have closes := Token.next_closing named none rest
    simp only [List.nil_append, List.append_nil] at opens closes
    rw [shape, Scan.pieces_take (opens _), pieces_printAll children soundChildren,
      Scan.pieces_take closes, Scan.prepend_prepend, Scan.prepend_prepend, tokens]
    simp
  | empty name attributes =>
    obtain ⟨named, soundAttributes⟩ := sound
    have shape : (Node.empty name attributes).print ++ rest =
        '<' :: (name.toList ++ (printAttributes attributes ++ ' ' :: '/' :: '>' :: rest)) := by
      simp [print]
    have blank : ∀ c ∈ [' '], Text.isBlank c = true := by simp [Text.isBlank]
    have closed := Token.next_selfClosing named (writesAttributes_print attributes)
      (named_writtenAttribute soundAttributes) blank rest
    rw [List.singleton_append] at closed
    rw [shape, Scan.pieces_take closed, tokens]
  | text content =>
    exact Scan.pieces_skip_all (fun c member => (escape_inert content c member).1) rest
  | comment content =>
    have shape : (Node.comment content).print ++ rest =
        '<' :: '!' :: '-' :: '-' :: (content.toList ++ '-' :: '-' :: '>' :: rest) := by
      simp [print]
    rw [shape, Scan.pieces_take (Token.next_comment sound rest), tokens]
  | line indent =>
    refine Scan.pieces_skip_all (fun c member => ?_) rest
    rcases List.mem_cons.mp member with rfl | space
    · decide
    · rw [(List.mem_replicate.mp space).2]
      decide
termination_by structural node

/-- The pieces of several printed trees. -/
theorem pieces_printAll (nodes : List Node) (sound : AllSound nodes) (rest : List Char) :
    Scan.pieces (printAll nodes ++ rest) = (Scan.pieces rest).prepend (allTokens nodes) := by
  cases nodes with
  | nil => rfl
  | cons node nodes =>
    rw [printAll, List.append_assoc, pieces_print node sound.1, pieces_printAll nodes sound.2,
      Scan.prepend_prepend, allTokens]
termination_by structural nodes

end

end Node

end LaneChart.Markup
