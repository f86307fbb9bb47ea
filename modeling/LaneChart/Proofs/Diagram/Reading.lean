/-
**Reading a tree, however it is written.** A reader of summaries looks at the names of tags and at
what is found in them, and at nothing else. So any text that is written for a tree does to an
outline what the pieces of the tree do.

* `Outline.Alike`: two tags that show the same.
* `Outline.ReadsAs`: a text does to an outline what some pieces do, whatever follows it. It holds of
  a text when it holds of its parts (`ReadsAs.append`).
* `Outline.readsAs_written`: a written tree reads as the tree.
-/

import LaneChart.Proofs.Diagram.Outline
import LaneChart.Proofs.Markup.Written

namespace LaneChart

open Markup

namespace Outline

/-! ### Tags that show the same -/

/-- **Two tags that show the same:** their names, and what is found in them. -/
structure Alike (tag other : Tag) : Prop where
  name : tag.name = other.name
  values : ∀ key, tag.find? key = other.find? key

theorem Alike.note {tag other : Tag} (alike : Alike tag other) (outline : Outline) :
    outline.note tag = outline.note other := by
  have values : ∀ key, valueOf key tag = valueOf key other := fun key => by
    rw [valueOf, valueOf, alike.values]
  have root : ∀ outline : Outline, outline.noteRoot tag = outline.noteRoot other :=
    fun outline => by rw [noteRoot, noteRoot, values]
  have child : ∀ outline : Outline, outline.noteChild tag = outline.noteChild other :=
    fun outline => by rw [noteChild, noteChild, values, values, Tag.localName, Tag.localName,
      alike.name]
  rw [Outline.note, Outline.note, root]
  simp only [child]

theorem Alike.opening {tag other : Tag} (alike : Alike tag other) (outline : Outline) :
    outline.step (.opening tag) = outline.step (.opening other) := by
  have entered : ∀ noted : Outline, noted.enter tag = noted.enter other := fun noted => by
    rw [enter, enter, Tag.localName, Tag.localName, alike.name]
  rw [step, step, alike.note]
  simp only [entered]

theorem Alike.selfClosing {tag other : Tag} (alike : Alike tag other) (outline : Outline) :
    outline.step (.selfClosing tag) = outline.step (.selfClosing other) :=
  alike.note outline

/-- A written tag shows the same as the printed one. -/
theorem alike_written (name : List Char) {attributes : Attributes} {items : List Attribute}
    (sound : SoundAttributes attributes) (spelled : attributes.SpelledAs items)
    {inside gap : List Char} (written : WritesAttributes items inside)
    (blank : ∀ c ∈ gap, Text.isBlank c = true) {tail : List Char}
    (blankTail : ∀ c ∈ tail, Text.isBlank c = true) :
    Alike ⟨name, inside ++ gap⟩ ⟨name, Node.printAttributes attributes ++ tail⟩ where
  name := rfl
  values key := by
    rw [Tag.find_written key _ sound spelled.readsAs written blank,
      Tag.find_print key _ sound blankTail]

/-! ### Texts that read the same -/

/-- **A text reads as some pieces:** whatever follows it, what is found in it does to an outline
what these pieces do. -/
def ReadsAs (text : List Char) (tokens : List Token) : Prop :=
  ∀ rest, ∃ found, Scan.pieces (text ++ rest) = (Scan.pieces rest).prepend found ∧
    ∀ outline : Outline, found.foldlM step outline = tokens.foldlM step outline

theorem ReadsAs.append {text more : List Char} {tokens later : List Token}
    (first : ReadsAs text tokens) (second : ReadsAs more later) :
    ReadsAs (text ++ more) (tokens ++ later) := by
  intro rest
  obtain ⟨found, pieces, same⟩ := first (more ++ rest)
  obtain ⟨foundLater, piecesLater, sameLater⟩ := second rest
  refine ⟨found ++ foundLater, ?_, fun outline => ?_⟩
  · rw [List.append_assoc, pieces, piecesLater, Scan.prepend_prepend]
  · rw [List.foldlM_append, List.foldlM_append, same]
    exact bind_congr fun outline => sameLater outline

/-- Text without opening brackets shows nothing. -/
theorem ReadsAs.plain {text : List Char} (plain : ∀ c ∈ text, c ≠ '<') : ReadsAs text [] :=
  fun rest => ⟨[], Scan.pieces_skip_all plain rest, fun _ => rfl⟩

/-- A piece reads as one that does the same. -/
theorem ReadsAs.piece {body : List Char} {token wanted : Token}
    (taken : ∀ rest, Token.next (body ++ rest) = .ok (token, rest))
    (same : ∀ outline : Outline, outline.step token = outline.step wanted) :
    ReadsAs ('<' :: body) [wanted] := by
  intro rest
  refine ⟨[token], Scan.pieces_take (taken rest), fun outline => ?_⟩
  rw [List.foldlM_cons, List.foldlM_cons, same]

/-- Markup that is no tag shows nothing. -/
theorem ReadsAs.other {body : List Char}
    (taken : ∀ rest, Token.next (body ++ rest) = .ok (.other, rest)) : ReadsAs ('<' :: body) [] :=
  fun rest => ⟨[.other], Scan.pieces_take (taken rest), fun _ => rfl⟩

theorem readsAs_instruction {text : List Char} (sound : IsInstruction text) : ReadsAs text [] := by
  cases sound with
  | @intro first more start ends =>
    refine ReadsAs.other fun rest => ?_
    have shape : '?' :: (first :: more) ++ ['?', '>'] ++ rest =
        '?' :: first :: (more ++ '?' :: '>' :: rest) := by simp
    exact (congrArg Token.next shape).trans (Token.next_instruction start ends rest)

theorem readsAs_instructions {text : List Char} (instructions : Instructions text) :
    ReadsAs text [] := by
  induction instructions with
  | nil => exact .plain nofun
  | cons first _ ih => exact (readsAs_instruction first).append ih

theorem readsAs_comment {content : List Char} (sound : isCommentText content = true) :
    ReadsAs (['<', '!', '-', '-'] ++ content ++ ['-', '-', '>']) [] := by
  refine ReadsAs.other fun rest => ?_
  have shape : ['!', '-', '-'] ++ content ++ ['-', '-', '>'] ++ rest =
      '!' :: '-' :: '-' :: (content ++ '-' :: '-' :: '>' :: rest) := by simp
  exact (congrArg Token.next shape).trans (Token.next_comment sound rest)

theorem readsAs_text {text written : List Char} (spelled : WritesText text written) :
    ReadsAs written [] := by
  induction spelled with
  | nil => exact .plain nofun
  | @char c text written rest first _ ih =>
    have plain := (Spelled.cons first .nil).no_bracket
    rw [List.append_nil] at plain
    exact ReadsAs.append (.plain plain) ih
  | @data data text rest _ ends _ ih =>
    refine ReadsAs.append (.other fun rest => ?_) ih
    have shape : ['!', '[', 'C', 'D', 'A', 'T', 'A', '['] ++ data ++ [']', ']', '>'] ++ rest =
        '!' :: '[' :: 'C' :: 'D' :: 'A' :: 'T' :: 'A' :: '[' ::
          (data ++ ']' :: ']' :: '>' :: rest) := by simp
    exact (congrArg Token.next shape).trans (Token.next_data ends rest)

theorem readsAs_asides {text : List Char} (asides : Asides text) : ReadsAs text [] := by
  induction asides with
  | nil => exact .plain nofun
  | @blank c rest blank _ ih =>
    have plain : ∀ d ∈ [c], d ≠ '<' := by
      rw [List.forall_mem_singleton]
      rintro rfl
      cases blank
    exact (ReadsAs.plain plain).append ih
  | comment sound _ ih => exact (readsAs_comment sound).append ih
  | instruction sound _ ih => exact (readsAs_instruction sound).append ih
  | @doctype content rest named plain _ ih =>
    refine ReadsAs.append (.other fun rest => ?_) ih
    have shape : ['!', 'D', 'O', 'C', 'T', 'Y', 'P', 'E'] ++ content ++ ['>'] ++ rest =
        '!' :: 'D' :: 'O' :: 'C' :: 'T' :: 'Y' :: 'P' :: 'E' :: (content ++ '>' :: rest) := by simp
    exact (congrArg Token.next shape).trans (Token.next_doctype named plain rest)

theorem isName_of_writesTag {name : String} {attributes : Attributes} {tag : List Char}
    (written : WritesTag name attributes tag) : isName name.toList = true := by
  cases written with
  | intro named => exact named

/-- **A start tag.** -/
theorem readsAs_opening {name : String} {attributes : Attributes} {tag : List Char}
    (opens : WritesTag name attributes tag) :
    ReadsAs ('<' :: tag ++ ['>']) [.opening ⟨name.toList, Node.printAttributes attributes⟩] := by
  cases opens with
  | @intro items inside gap named sound spelled written blank =>
    have none : ∀ c ∈ [], Text.isBlank c = true := List.forall_mem_nil _
    have alike := alike_written name.toList sound spelled written blank none
    rw [List.append_nil] at alike
    refine ReadsAs.piece (fun rest => ?_) alike.opening
    have shape : name.toList ++ (inside ++ gap) ++ ['>'] ++ rest =
        name.toList ++ (inside ++ (gap ++ '>' :: rest)) := by simp
    exact (congrArg Token.next shape).trans
      (Token.next_opening named written (spelled.readsAs.named sound) blank rest)

/-- **An empty element.** -/
theorem readsAs_selfClosing {name : String} {attributes : Attributes} {tag : List Char}
    (closed : WritesTag name attributes tag) :
    ReadsAs ('<' :: tag ++ ['/', '>'])
      [.selfClosing ⟨name.toList, Node.printAttributes attributes ++ [' ']⟩] := by
  cases closed with
  | @intro items inside gap named sound spelled written blank =>
    have space : ∀ c ∈ [' '], Text.isBlank c = true := by simp [Text.isBlank]
    have alike := alike_written name.toList sound spelled written blank space
    refine ReadsAs.piece (fun rest => ?_) alike.selfClosing
    have shape : name.toList ++ (inside ++ gap) ++ ['/', '>'] ++ rest =
        name.toList ++ (inside ++ (gap ++ '/' :: '>' :: rest)) := by simp
    exact (congrArg Token.next shape).trans
      (Token.next_selfClosing named written (spelled.readsAs.named sound) blank rest)

/-- **An end tag.** -/
theorem readsAs_closing {name gap : List Char} (named : isName name = true)
    (blank : ∀ c ∈ gap, Text.isBlank c = true) :
    ReadsAs ('<' :: '/' :: (name ++ gap) ++ ['>']) [.closing name] := by
  refine ReadsAs.piece (fun rest => ?_) fun _ => rfl
  have shape : '/' :: (name ++ gap) ++ ['>'] ++ rest =
      '/' :: (name ++ (gap ++ '>' :: rest)) := by simp
  exact (congrArg Token.next shape).trans (Token.next_closing named blank rest)

mutual

/-- **A written tree reads as the tree.** -/
theorem readsAs_written (node : Node) {text : List Char} (written : node.Writes text) :
    ReadsAs text node.tokens := by
  cases node with
  | element name attributes children =>
    cases written with
    | element opens inner blank =>
      have closes := readsAs_closing (isName_of_writesTag opens) blank
      have inside := (readsAs_allWritten children inner).append closes
      have whole := (readsAs_opening opens).append inside
      simpa [Node.tokens] using whole
  | empty name attributes =>
    cases written with
    | empty closed => exact readsAs_selfClosing closed
  | text content =>
    cases written with
    | text spelled => exact readsAs_text spelled
  | comment content =>
    cases written with
    | comment sound => exact readsAs_comment sound
  | line indent =>
    cases written with
    | line =>
      refine ReadsAs.plain (List.forall_mem_cons.mpr ⟨by decide, fun c member => ?_⟩)
      rw [(List.mem_replicate.mp member).2]
      decide
termination_by structural node

/-- What is written in an element reads as what is in the element. -/
theorem readsAs_allWritten (nodes : List Node) {text : List Char}
    (written : Node.WritesAll nodes text) : ReadsAs text (Node.allTokens nodes) := by
  cases nodes with
  | nil =>
    cases written with
    | nil instructions => exact readsAs_instructions instructions
  | cons node nodes =>
    cases written with
    | cons instructions first more =>
      exact ((readsAs_instructions instructions).append (readsAs_written node first)).append
        (readsAs_allWritten nodes more)
termination_by structural nodes

end

end Outline

end LaneChart
