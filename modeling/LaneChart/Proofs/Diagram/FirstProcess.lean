/-
**What a summary lists.** Take any well-formed document, however it is written. The summary lists
what is directly in the first process that has a start tag and an end tag. A process that is written
as an empty element is passed over: it has nothing in it, but the process after it is listed in its
place.

* `Node.all`: a tree in document order.
* `Node.firstProcess?`, `Node.firstOpenProcess?`: the first process, and the first one with two
  tags.
* `Node.Overlooked`: the first process is passed over, and this shows.
* `Node.summarize_written`: the summary of any well-formed document, and when it lists what is in
  the first process.
-/

import LaneChart.Proofs.Diagram.Reading

namespace LaneChart

open Markup

/-! ### Document order -/

namespace Markup.Node

mutual

/-- **A tree with everything in it, in document order.** -/
def all : Node → List Node
  | .element name attributes children => .element name attributes children :: allIn children
  | .empty name attributes => [.empty name attributes]
  | .text content => [.text content]
  | .comment content => [.comment content]
  | .line indent => [.line indent]
termination_by structural node => node

/-- Several trees with everything in them, in document order. -/
def allIn : List Node → List Node
  | [] => []
  | node :: rest => node.all ++ allIn rest
termination_by structural nodes => nodes

end

/-- What is directly in an element. -/
def children : Node → List Node
  | .element _ _ children => children
  | .empty _ _ | .text _ | .comment _ | .line _ => []

/-- The attributes of an element. -/
def attributes : Node → Attributes
  | .element _ attributes _ | .empty _ attributes => attributes
  | .text _ | .comment _ | .line _ => []

/-- Whether a node is an element that is a process. -/
def isProcess : Node → Bool
  | .element name _ _ | .empty name _ => isProcessName name
  | .text _ | .comment _ | .line _ => false

/-- Whether a node is an element with a start tag and an end tag. -/
def isOpen : Node → Bool
  | .element _ _ _ => true
  | .empty _ _ | .text _ | .comment _ | .line _ => false

/-- **The first process** in document order. -/
def firstProcess? (root : Node) : Option Node := root.all.find? isProcess

/-- **The first process with a start tag and an end tag.** -/
def firstOpenProcess? (root : Node) : Option Node :=
  root.all.find? fun node => node.isProcess && node.isOpen

/-- The elements that are directly in a process, as they are listed. -/
def listing (process : Option Node) : List SummaryEntry :=
  entries ((process.map children).getD [])

/-- **The first process is overlooked:** it is written as an empty element, and there are elements
in the first process that is not. -/
structure Overlooked (root : Node) : Prop where
  empty : ∃ process, root.firstProcess? = some process ∧ process.isOpen = false
  later : listing root.firstOpenProcess? ≠ []

mutual

theorem openProcess_eq (node : Node) : node.openProcess? = node.firstOpenProcess?.map children := by
  cases node with
  | element name attributes nodes =>
    rw [openProcess?, firstOpenProcess?, all, List.find?_cons]
    have here : ((Node.element name attributes nodes).isProcess &&
        (Node.element name attributes nodes).isOpen) = isProcessName name := Bool.and_true _
    rw [here, openProcessIn_eq nodes]
    cases isProcessName name <;> rfl
  | empty name attributes =>
    have closed : ((Node.empty name attributes).isProcess &&
        (Node.empty name attributes).isOpen) = false := Bool.and_false _
    rw [openProcess?, firstOpenProcess?, all, List.find?_singleton, closed]
    rfl
  | text content => rfl
  | comment content => rfl
  | line indent => rfl
termination_by structural node

theorem openProcessIn_eq (nodes : List Node) :
    openProcessIn? nodes =
      ((allIn nodes).find? fun node => node.isProcess && node.isOpen).map children := by
  cases nodes with
  | nil => rfl
  | cons node nodes =>
    rw [openProcessIn?, allIn, List.find?_append, openProcess_eq node, openProcessIn_eq nodes,
      firstOpenProcess?]
    cases node.all.find? fun node => node.isProcess && node.isOpen <;> rfl
termination_by structural nodes

end

/-- **What is listed is in the first process unless it is overlooked.** -/
theorem listing_eq_iff (root : Node) :
    listing root.firstOpenProcess? = listing root.firstProcess? ↔ ¬ root.Overlooked := by
  cases first : root.firstProcess? with
  | none =>
    have missed : root.firstOpenProcess? = none := by
      refine List.find?_eq_none.mpr fun node member both => ?_
      exact List.find?_eq_none.mp first node member (Bool.and_eq_true_iff.mp both).1
    rw [missed]
    refine iff_of_true rfl fun overlooked => ?_
    obtain ⟨process, found, _⟩ := overlooked.empty
    rw [first] at found
    cases found
  | some process =>
    -- An open first process is also the first open one. An empty one has nothing to list, so it is
    -- overlooked when the first open one has.
    cases tagged : process.isOpen with
    | true =>
      have same : root.firstOpenProcess? = some process := by
        obtain ⟨isProcess, before, after, split, others⟩ := List.find?_eq_some_iff_append.mp first
        have both : (process.isProcess && process.isOpen) = true := by rw [isProcess, tagged]; rfl
        refine List.find?_eq_some_iff_append.mpr ⟨both, before, after, split, ?_⟩
        intro node member
        have other : node.isProcess = false := by simpa using others node member
        rw [other]
        rfl
      rw [same]
      refine iff_of_true rfl fun overlooked => ?_
      obtain ⟨other, found, empty⟩ := overlooked.empty
      rw [first] at found
      cases found
      rw [tagged] at empty
      cases empty
    | false =>
      have nothing : listing (some process) = [] := by
        cases process <;> first | rfl | cases tagged
      rw [nothing]
      constructor
      · exact fun none overlooked => overlooked.later none
      · intro kept
        by_contra some
        exact kept ⟨⟨process, first, tagged⟩, some⟩

end Markup.Node

/-! ### Whole documents -/

namespace Markup.Node

mutual

/-- A tree that can be written can be printed. -/
theorem sound_of_writes (node : Node) {text : List Char} (written : node.Writes text) :
    node.Sound := by
  cases node with
  | element name attributes children =>
    cases written with
    | element opens inner blank =>
      cases opens with
      | intro named sound => exact ⟨named, sound, allSound_of_writes children inner⟩
  | empty name attributes =>
    cases written with
    | empty closed =>
      cases closed with
      | intro named sound => exact ⟨named, sound⟩
  | text content => exact trivial
  | comment content =>
    cases written with
    | comment sound => exact sound
  | line indent => exact trivial
termination_by structural node

theorem allSound_of_writes (nodes : List Node) {text : List Char}
    (written : Node.WritesAll nodes text) : AllSound nodes := by
  cases nodes with
  | nil => exact trivial
  | cons node nodes =>
    cases written with
    | cons _ first more => exact ⟨sound_of_writes node first, allSound_of_writes nodes more⟩
termination_by structural nodes

end

/-- The id under which a document is known: the one of its root, or a common one. -/
def documentId (root : Node) : String :=
  ((root.attributes.value? "id".toList).filter (· ≠ "")).getD "process_001"

/-- A document starts with a bracket or a blank. -/
theorem head_document {root : Node} {before text : List Char} (above : Asides before)
    (element : root.isElement = true) (written : root.Writes text) (rest : List Char) :
    ∃ c, (before ++ text ++ rest).head? = some c ∧ (c = '<' ∨ Text.isBlank c = true) := by
  have front : ∃ more, text = '<' :: more := by
    cases written with
    | element => exact ⟨_, rfl⟩
    | empty => exact ⟨_, rfl⟩
    | text => cases element
    | comment => cases element
    | line => cases element
  obtain ⟨more, rfl⟩ := front
  cases above with
  | nil => exact ⟨_, rfl, .inl rfl⟩
  | blank blank => exact ⟨_, rfl, .inr blank⟩
  | comment => exact ⟨_, rfl, .inl rfl⟩
  | instruction sound =>
    cases sound
    exact ⟨_, rfl, .inl rfl⟩
  | doctype => exact ⟨_, rfl, .inl rfl⟩

end Markup.Node

namespace Outline

/-- A byte order mark, if there is one, is passed over. -/
theorem afterMark_append {mark text : List Char} (marked : mark = [] ∨ mark = ['\uFEFF'])
    (start : text.head? ≠ some '\uFEFF') : Scan.afterMark (mark ++ text) = text := by
  rcases marked with rfl | rfl
  · cases text with
    | nil => rfl
    | cons c text =>
      rw [List.nil_append, Scan.afterMark.eq_def]
      split
      · rename_i same
        cases same
        exact absurd rfl start
      · rfl
  · rfl

/-- **The summary of a text is the summary of what it reads as.** -/
theorem summarizeChars_readsAs {mark text : List Char} (marked : mark = [] ∨ mark = ['\uFEFF'])
    (start : text.head? ≠ some '\uFEFF') {tokens : List Token} (reads : ReadsAs text tokens) :
    summarizeChars (mark ++ text) = (tokens.foldlM step {} >>= finish) := by
  obtain ⟨found, pieces, same⟩ := reads []
  have scanned : Scan.of (mark ++ text) = ⟨found, none⟩ := by
    rw [List.append_nil] at pieces
    rw [Scan.of_eq, afterMark_append marked start, pieces, Scan.pieces_nil, Scan.prepend,
      List.append_nil]
  unfold summarizeChars
  rw [scanned]
  exact congrArg (· >>= finish) (same {})

/-- The summary of one tree, of which the root may be empty. -/
theorem finish_tree {root : Node} (element : root.isElement = true) (sound : root.Sound) :
    (root.tokens.foldlM step {} >>= finish) =
      .ok ⟨root.documentId, "Current Process", Node.entries (root.openProcess?.getD [])⟩ := by
  cases root with
  | element name attributes children => exact finish_root sound
  | empty name attributes =>
    have blank : ∀ c ∈ [' '], Text.isBlank c = true := by simp [Text.isBlank]
    have value := valueOf_print "id" name.toList sound.2 [' '] blank
    have noted : note ⟨name.toList, Node.printAttributes attributes ++ [' ']⟩ {} =
        .ok { id := (attributes.value? "id".toList).filter (· ≠ ""), rooted := true } := by
      unfold note noteRoot
      rw [value]
      rfl
    show ((note _ {} >>= pure) >>= finish) = _
    rw [noted]
    rfl
  | text content => cases element
  | comment content => cases element
  | line indent => cases element

end Outline

namespace Markup.Node

/-- **The summary of any well-formed document** lists what is directly in the first process that has
a start tag and an end tag. That is what is in the first process unless it is overlooked. -/
theorem summarize_written {root : Node} {text : List Char} (written : root.WritesDocument text) :
    summarize (String.ofList text) =
        .ok ⟨root.documentId, "Current Process", listing root.firstOpenProcess?⟩ ∧
      (listing root.firstOpenProcess? = listing root.firstProcess? ↔ ¬ root.Overlooked) := by
  refine ⟨?_, root.listing_eq_iff⟩
  cases written with
  | @intro mark before text after marked above element tree below =>
    -- What follows an optional byte order mark must not look like a second one.
    obtain ⟨c, first, start⟩ := head_document above element tree after
    have unmarked : (before ++ text ++ after).head? ≠ some '\uFEFF' := by
      rw [first]
      intro same
      cases same
      rcases start with bracket | blank
      · exact absurd bracket (by decide)
      · cases blank
    have reads := ((Outline.readsAs_asides above).append (Outline.readsAs_written root tree)).append
      (Outline.readsAs_asides below)
    rw [List.nil_append, List.append_nil] at reads
    rw [summarize, String.toList_ofList, Outline.summarizeChars_readsAs marked unmarked reads,
      Outline.finish_tree element (sound_of_writes root tree), listing, ← openProcess_eq]

/-- A process of which the only element has its id between single quotes. -/
def spaced : Node := .element "a" [] [.element "b:process" [] [.empty "task" [("id", "1")]]]

/-- The id can have blanks around its equals sign and its character as a number. -/
theorem writes_spaced :
    spaced.WritesDocument "<a><b:process><task id = '&#x31;'/></b:process></a>".toList := by
  let item : Attribute := ⟨"id".toList, "&#x31;".toList⟩
  have digits : Spells '1' "&#x31;".toList :=
    .numbered (by decide : (16, ['x']) ∈ numberForms) (by decide : ['3', '1'] ≠ []) (by decide)
      (by decide) (by decide)
  have blank : ∀ c ∈ [' '] ++ [' '] ++ [' '], Text.isBlank c = true := by simp [Text.isBlank]
  have spelled : Attributes.SpelledAs [("id", "1")] [item] :=
    .cons ⟨rfl, .cons digits .nil⟩ .nil
  have written : WritesAttributes [item] " id = '&#x31;'".toList :=
    .cons (.intro (List.cons_ne_nil _ _) blank (.inr rfl) (by decide)) .nil
  have none : ∀ c ∈ [], Text.isBlank c = true := List.forall_mem_nil _
  have bare : SoundAttributes [] := ⟨List.forall_mem_nil _, List.nodup_nil⟩
  have task : (Node.empty "task" [("id", "1")]).Writes "<task id = '&#x31;'/>".toList :=
    .empty (.intro (by decide) ⟨by decide, by decide⟩ spelled written none)
  have plain : ∀ name : String, isName name.toList = true →
      WritesTag name [] (name.toList ++ ([] ++ [])) :=
    fun name named => .intro named bare .nil .nil none
  have process := Writes.element (plain "b:process" (by decide))
    (.cons .nil task (.nil .nil)) none
  have root := Writes.element (plain "a" (by decide)) (.cons .nil process (.nil .nil)) none
  exact .intro (.inl rfl) .nil rfl root .nil

/-- Such a document lists the element. -/
theorem summarize_written_spaced :
    spaced.WritesDocument "<a><b:process><task id = '&#x31;'/></b:process></a>".toList ∧
      summarize "<a><b:process><task id = '&#x31;'/></b:process></a>" =
        .ok ⟨"process_001", "Current Process", [⟨"task", "1", ""⟩]⟩ ∧ ¬ spaced.Overlooked := by
  obtain ⟨summary, listed⟩ := summarize_written writes_spaced
  rw [String.ofList_toList] at summary
  exact ⟨writes_spaced, summary, listed.mp rfl⟩

/-- A document in which an empty process stands in front of another one. -/
def overlooking : Node :=
  .element "a" [] [.empty "process" [], .element "process" [] [.empty "b" []]]

/-- **An overlooked process:** the first process has nothing in it, and the element of the second
one is listed. -/
theorem overlooking_lists_later :
    overlooking.WritesDocument "<a><process /><process><b /></process></a>".toList ∧
      listing overlooking.firstProcess? = [] ∧
      summarize "<a><process /><process><b /></process></a>" =
        .ok ⟨"process_001", "Current Process", [⟨"b", "", ""⟩]⟩ := by
  have bare : SoundAttributes [] := ⟨List.forall_mem_nil _, List.nodup_nil⟩
  have sound : overlooking.Sound :=
    ⟨by decide, bare, ⟨by decide, bare⟩, ⟨by decide, bare, ⟨by decide, bare⟩, trivial⟩, trivial⟩
  have written := WritesDocument.intro (.inl rfl) .nil rfl (writes_print overlooking sound) .nil
  exact ⟨written, rfl, rfl⟩

end Markup.Node

end LaneChart
