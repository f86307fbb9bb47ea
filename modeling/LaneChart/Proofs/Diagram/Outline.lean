/-
**Summarizing a printed tree.** The summary of a printed tree lists the children of the first
process in it that is not an empty element.

* `Node.entry?`: how an element is listed.
* `Node.openProcess?`: the children of the first process, said of the tree.
* `Outline.Quiet`: nothing that is still to come can be listed.
* `Outline.foldlM_quiet`, `foldlM_children`, `foldlM_ahead`: what the pieces of a tree do to an
  outline, when the process is elsewhere, when they are in it, and when it is still ahead.
* `Outline.finish_root`: the summary of one tree.

The three laws say that whatever a tree opens it also closes: the unfinished elements are the same
before and after, so a process is left exactly where it was entered.
-/

import LaneChart.Diagram.Summary
import LaneChart.Proofs.Markup.Printing

namespace LaneChart

open Markup

/-! ### What a tree shows -/

/-- **How an element is listed.** Nothing else is. -/
def Markup.Node.entry? : Node → Option SummaryEntry
  | .element name attributes _ | .empty name attributes =>
    some ⟨String.ofList (localPart name.toList), (attributes.value? "id".toList).getD "",
      (attributes.value? "name".toList).getD ""⟩
  | .text _ | .comment _ | .line _ => none

/-- The elements in a list of trees, as they are listed. -/
def Markup.Node.entries (nodes : List Node) : List SummaryEntry := nodes.filterMap Node.entry?

/-- Whether a name says that an element is a process. -/
def isProcessName (name : String) : Bool :=
  localPart name.toList == ['p', 'r', 'o', 'c', 'e', 's', 's']

mutual

/-- **The children of the first process** in a tree; an empty element is none. -/
def Markup.Node.openProcess? : Node → Option (List Node)
  | .element name _ children =>
    if isProcessName name then some children else Node.openProcessIn? children
  | .empty _ _ | .text _ | .comment _ | .line _ => none
termination_by structural node => node

/-- The children of the first process in several trees. -/
def Markup.Node.openProcessIn? : List Node → Option (List Node)
  | [] => none
  | node :: rest =>
    match node.openProcess? with
    | some children => some children
    | none => Node.openProcessIn? rest
termination_by structural nodes => nodes

end

namespace Outline

/-! ### One tag -/

/-- What a reader finds in a printed tag. -/
theorem valueOf_print (key : String) (name : List Char) {attributes : Attributes}
    (sound : SoundAttributes attributes) (tail : List Char)
    (blank : ∀ c ∈ tail, Text.isBlank c = true) :
    valueOf key ⟨name, Node.printAttributes attributes ++ tail⟩ =
      .ok (attributes.value? key.toList) := by
  unfold valueOf
  rw [Tag.find_print key.toList name sound blank]
  show Except.ok (((attributes.value? key.toList).map String.toList).map String.ofList) = _
  cases attributes.value? key.toList with
  | none => rfl
  | some text => exact congrArg (fun found => Except.ok (some found)) String.ofList_toList

theorem noteRoot_inner {outline : Outline} (inner : outline.unfinished ≠ []) (tag : Tag) :
    outline.noteRoot tag = .ok outline := by
  have filled : outline.unfinished.isEmpty = false := List.isEmpty_eq_false_iff.mpr inner
  unfold noteRoot
  rw [filled]
  rfl

/-- A tag inside the document, but not in the process, is of no interest. -/
theorem note_elsewhere {outline : Outline} (rooted : outline.rooted = true)
    (inner : outline.unfinished ≠ [])
    (elsewhere : outline.process ≠ .around outline.unfinished.length) (tag : Tag) :
    outline.note tag = .ok outline := by
  have noted : outline.noteChild tag = .ok outline := by
    unfold noteChild
    rw [if_neg elsewhere]
    rfl
  unfold note
  rw [noteRoot_inner inner]
  show (outline.noteChild tag >>= fun outline => pure { outline with rooted := true }) = _
  rw [noted]
  show Except.ok { outline with rooted := true } = Except.ok outline
  rw [← rooted]

/-- **A child of the process is listed.** -/
theorem note_child {outline : Outline} (rooted : outline.rooted = true)
    (inner : outline.unfinished ≠ [])
    (inside : outline.process = .around outline.unfinished.length) (name : List Char)
    {attributes : Attributes} (sound : SoundAttributes attributes) (tail : List Char)
    (blank : ∀ c ∈ tail, Text.isBlank c = true) :
    outline.note ⟨name, Node.printAttributes attributes ++ tail⟩ =
      .ok { outline with children :=
        ⟨String.ofList (localPart name), (attributes.value? "id".toList).getD "",
          (attributes.value? "name".toList).getD ""⟩ :: outline.children } := by
  unfold note
  rw [noteRoot_inner inner]
  show (outline.noteChild _ >>= fun outline => pure { outline with rooted := true }) = _
  unfold noteChild
  rw [if_pos inside, valueOf_print "id" name sound tail blank,
    valueOf_print "name" name sound tail blank]
  show Except.ok { outline with children := _ :: outline.children, rooted := true } = _
  rw [← rooted]
  rfl

/-! ### Where nothing is listed -/

/-- **Nothing that is still to come inside the innermost element can be listed.** -/
structure Quiet (outline : Outline) : Prop where
  rooted : outline.rooted = true
  inner : outline.unfinished ≠ []
  passed : outline.process = .behind ∨
    ∃ depth, outline.process = .around depth ∧ depth < outline.unfinished.length

theorem Quiet.elsewhere {outline : Outline} (quiet : outline.Quiet) {depth : Nat}
    (outer : outline.unfinished.length ≤ depth) : outline.process ≠ .around depth := by
  rcases quiet.passed with behind | ⟨around, inside, deeper⟩
  · rw [behind]
    exact nofun
  · rw [inside]
    intro same
    cases same
    omega

theorem Quiet.notAhead {outline : Outline} (quiet : outline.Quiet) :
    outline.process ≠ .ahead := by
  rcases quiet.passed with behind | ⟨_, inside, _⟩
  · rw [behind]
    exact nofun
  · rw [inside]
    exact nofun

/-- The outline inside one more element. -/
def within (name : List Char) (outline : Outline) : Outline :=
  { outline with unfinished := name :: outline.unfinished }

theorem Quiet.within {outline : Outline} (quiet : outline.Quiet) (name : List Char) :
    (outline.within name).Quiet where
  rooted := quiet.rooted
  inner := List.cons_ne_nil _ _
  passed := quiet.passed.imp_right fun ⟨depth, inside, deeper⟩ =>
    ⟨depth, inside, Nat.lt_succ_of_lt deeper⟩

/-- An element that is no process, or that comes too late to be the first one, only nests. -/
theorem enter_plain {outline : Outline} {tag : Tag}
    (plain : outline.process ≠ .ahead ∨
      tag.localName ≠ ['p', 'r', 'o', 'c', 'e', 's', 's']) :
    outline.enter tag = outline.within tag.name := by
  have stays : (outline.process = .ahead &&
      tag.localName == ['p', 'r', 'o', 'c', 'e', 's', 's']) = false := by
    rcases plain with late | other
    · simp [late]
    · simp [other]
  unfold enter
  simp only [stays, Bool.false_eq_true, if_false]
  rfl

/-- Leaving an element that is not the process undoes entering it. -/
theorem leave_within {outline : Outline} {name : List Char}
    (other : outline.process ≠ .around (outline.unfinished.length + 1)) :
    (outline.within name).leave name = .ok outline := by
  unfold leave within
  simp only [if_true, List.length_cons, if_neg other]

theorem step_opening {outline noted : Outline} {tag : Tag} (taken : outline.note tag = .ok noted) :
    outline.step (.opening tag) = .ok (noted.enter tag) := by
  show (outline.note tag >>= fun outline => pure (outline.enter tag)) = _
  rw [taken]
  rfl

/-- The pieces of an element: its start tag, what is in it, its end tag. -/
theorem foldlM_element (outline : Outline) (name : String) (attributes : Attributes)
    (children : List Node) :
    (Node.element name attributes children).tokens.foldlM step outline =
      outline.step (.opening ⟨name.toList, Node.printAttributes attributes⟩) >>= fun entered =>
        (Node.allTokens children).foldlM step entered >>= fun walked =>
          walked.leave name.toList := by
  rw [Node.tokens, List.cons_append, List.foldlM_cons]
  refine bind_congr fun entered => ?_
  rw [List.foldlM_append]
  refine bind_congr fun walked => ?_
  rw [List.foldlM_cons]
  show (walked.leave name.toList >>= fun left => pure left) = _
  exact bind_pure _

mutual

/-- **Where nothing is listed, a tree changes nothing.** -/
theorem foldlM_quiet (node : Node) {outline : Outline} (quiet : outline.Quiet) :
    node.tokens.foldlM step outline = .ok outline := by
  have noted := note_elsewhere quiet.rooted quiet.inner (quiet.elsewhere (Nat.le_refl _))
  cases node with
  | element name attributes children =>
    rw [foldlM_element, step_opening (noted _), enter_plain (Or.inl quiet.notAhead)]
    show ((Node.allTokens children).foldlM step (outline.within name.toList) >>= _) = _
    rw [foldlM_allQuiet children (quiet.within _)]
    exact leave_within (quiet.elsewhere (Nat.le_succ _))
  | empty name attributes =>
    show (outline.note _ >>= fun noted => pure noted) = _
    rw [noted]
    rfl
  | text content => rfl
  | comment content => rfl
  | line indent => rfl
termination_by structural node

/-- Where nothing is listed, several trees change nothing. -/
theorem foldlM_allQuiet (nodes : List Node) {outline : Outline} (quiet : outline.Quiet) :
    (Node.allTokens nodes).foldlM step outline = .ok outline := by
  cases nodes with
  | nil => rfl
  | cons node nodes =>
    rw [Node.allTokens, List.foldlM_append, foldlM_quiet node quiet]
    exact foldlM_allQuiet nodes quiet
termination_by structural nodes

end

/-! ### In the process -/

/-- The outline after the elements among several trees were listed. -/
def listing (nodes : List Node) (outline : Outline) : Outline :=
  { outline with children := (Node.entries nodes).reverse ++ outline.children }

/-- **In the process, every element is listed,** and what is in it is not. -/
theorem foldlM_child (node : Node) (sound : node.Sound) {outline : Outline}
    (rooted : outline.rooted = true) (inner : outline.unfinished ≠ [])
    (inside : outline.process = .around outline.unfinished.length) :
    node.tokens.foldlM step outline = .ok (outline.listing [node]) := by
  cases node with
  | element name attributes children =>
    have noted := note_child rooted inner inside name.toList sound.2.1 [] (List.forall_mem_nil _)
    rw [List.append_nil] at noted
    have quiet : ((outline.listing [.element name attributes children]).within
        name.toList).Quiet :=
      ⟨rooted, List.cons_ne_nil _ _, Or.inr ⟨_, inside, Nat.lt_succ_self _⟩⟩
    have late : (outline.listing [.element name attributes children]).process ≠ .ahead := by
      show outline.process ≠ .ahead
      rw [inside]
      exact nofun
    have other : (outline.listing [.element name attributes children]).process ≠
        .around ((outline.listing [.element name attributes children]).unfinished.length + 1) := by
      show outline.process ≠ .around (outline.unfinished.length + 1)
      rw [inside]
      intro same
      exact absurd (ProcessPosition.around.inj same) (by omega)
    rw [foldlM_element, step_opening noted]
    show ((Node.allTokens children).foldlM step
      ((outline.listing [.element name attributes children]).enter _) >>= _) = _
    rw [enter_plain (Or.inl late)]
    show ((Node.allTokens children).foldlM step
      ((outline.listing [.element name attributes children]).within name.toList) >>= _) = _
    rw [foldlM_allQuiet children quiet]
    exact leave_within other
  | empty name attributes =>
    have noted := note_child rooted inner inside name.toList sound.2 [' ']
      (by simp [Text.isBlank])
    show (outline.note _ >>= fun noted => pure noted) = _
    rw [noted]
    rfl
  | text content => rfl
  | comment content => rfl
  | line indent => rfl

theorem foldlM_children (nodes : List Node) (sound : Node.AllSound nodes) {outline : Outline}
    (rooted : outline.rooted = true) (inner : outline.unfinished ≠ [])
    (inside : outline.process = .around outline.unfinished.length) :
    (Node.allTokens nodes).foldlM step outline = .ok (outline.listing nodes) := by
  induction nodes generalizing outline with
  | nil => rfl
  | cons node nodes ih =>
    have later : (outline.listing [node]).listing nodes = outline.listing (node :: nodes) := by
      simp [listing, Node.entries, List.filterMap_cons]
      cases node.entry? <;> simp
    rw [Node.allTokens, List.foldlM_append, foldlM_child node sound.1 rooted inner inside]
    show (Node.allTokens nodes).foldlM step (outline.listing [node]) = _
    rw [← later]
    exact ih sound.2 rooted inner inside

/-! ### Ahead of the process -/

/-- The outline after the first process was passed, if there was one. -/
def passing : Option (List Node) → Outline → Outline
  | some children, outline => { outline.listing children with process := .behind }
  | none, outline => outline

/-- **A process is left where it was entered,** with its children listed. -/
theorem foldlM_process {name : String} (named : isProcessName name = true)
    (attributes : Attributes) {children : List Node} (sound : Node.AllSound children)
    {outline noted : Outline} (rooted : noted.rooted = true) (ahead : noted.process = .ahead)
    (taken : outline.note ⟨name.toList, Node.printAttributes attributes⟩ = .ok noted) :
    (Node.element name attributes children).tokens.foldlM step outline =
      .ok (noted.passing (some children)) := by
  let inside : Outline :=
    { noted.within name.toList with process := .around (noted.unfinished.length + 1) }
  have entered : noted.enter ⟨name.toList, Node.printAttributes attributes⟩ = inside := by
    have here : (noted.process = .ahead && localPart name.toList ==
        ['p', 'r', 'o', 'c', 'e', 's', 's']) = true := by
      rw [isProcessName] at named
      simp [ahead, named]
    unfold enter Tag.localName
    simp only [here, if_true]
    rfl
  rw [foldlM_element, step_opening taken, entered]
  have walked : (Node.allTokens children).foldlM step inside = .ok (inside.listing children) :=
    foldlM_children children sound rooted (List.cons_ne_nil _ _) rfl
  show ((Node.allTokens children).foldlM step inside >>= _) = _
  rw [walked]
  show (inside.listing children).leave name.toList = _
  unfold leave
  simp only [inside, listing, within, if_true, List.length_cons, passing]

/-- Leaving an element takes along what was found in it. -/
theorem leave_passing {outline : Outline} (ahead : outline.process = .ahead) (name : List Char)
    (found : Option (List Node)) :
    ((outline.within name).passing found).leave name = .ok (outline.passing found) := by
  cases found with
  | none =>
    refine leave_within ?_
    rw [ahead]
    exact nofun
  | some children =>
    show ((outline.passing (some children)).within name).leave name = _
    refine leave_within ?_
    show ProcessPosition.behind ≠ _
    exact nofun

/-- An element ahead of the process is the process, or it is searched for it. -/
theorem foldlM_searched {name : String} {attributes : Attributes} {children : List Node}
    (sound : Node.AllSound children) {outline noted : Outline} (rooted : noted.rooted = true)
    (ahead : noted.process = .ahead)
    (taken : outline.note ⟨name.toList, Node.printAttributes attributes⟩ = .ok noted)
    (walked : (Node.allTokens children).foldlM step (noted.within name.toList) =
      .ok ((noted.within name.toList).passing (Node.openProcessIn? children))) :
    (Node.element name attributes children).tokens.foldlM step outline =
      .ok (noted.passing (Node.element name attributes children).openProcess?) := by
  cases named : isProcessName name with
  | true =>
    rw [foldlM_process named attributes sound rooted ahead taken, Node.openProcess?, named,
      if_pos rfl]
  | false =>
    have entered : noted.enter ⟨name.toList, Node.printAttributes attributes⟩ =
        noted.within name.toList := enter_plain (Or.inr (beq_eq_false_iff_ne.mp named))
    rw [foldlM_element, step_opening taken, entered]
    show ((Node.allTokens children).foldlM step (noted.within name.toList) >>= _) = _
    rw [walked, Node.openProcess?, named, if_neg Bool.false_ne_true]
    exact leave_passing ahead _ _

mutual

/-- **Ahead of the process, a tree is searched for it.** -/
theorem foldlM_ahead (node : Node) (sound : node.Sound) {outline : Outline}
    (rooted : outline.rooted = true) (inner : outline.unfinished ≠ [])
    (ahead : outline.process = .ahead) :
    node.tokens.foldlM step outline = .ok (outline.passing node.openProcess?) := by
  have notHere : outline.process ≠ .around outline.unfinished.length := by
    rw [ahead]
    exact nofun
  have noted := note_elsewhere rooted inner notHere
  cases node with
  | element name attributes children =>
    exact foldlM_searched sound.2.2 rooted ahead (noted _)
      (foldlM_allAhead children sound.2.2 rooted (List.cons_ne_nil _ _) ahead)
  | empty name attributes =>
    show (outline.note _ >>= fun noted => pure noted) = _
    rw [noted]
    rfl
  | text content => rfl
  | comment content => rfl
  | line indent => rfl
termination_by structural node

/-- Ahead of the process, several trees are searched for it in turn. -/
theorem foldlM_allAhead (nodes : List Node) (sound : Node.AllSound nodes) {outline : Outline}
    (rooted : outline.rooted = true) (inner : outline.unfinished ≠ [])
    (ahead : outline.process = .ahead) :
    (Node.allTokens nodes).foldlM step outline =
      .ok (outline.passing (Node.openProcessIn? nodes)) := by
  cases nodes with
  | nil => rfl
  | cons node nodes =>
    rw [Node.allTokens, List.foldlM_append, foldlM_ahead node sound.1 rooted inner ahead,
      Node.openProcessIn?]
    cases node.openProcess? with
    | none => exact foldlM_allAhead nodes sound.2 rooted inner ahead
    | some children =>
      have quiet : (outline.passing (some children)).Quiet := ⟨rooted, inner, Or.inl rfl⟩
      exact foldlM_allQuiet nodes quiet
termination_by structural nodes

end

/-! ### The whole document -/

/-- The summary of a document with one root element. -/
def summaryOf (name : String) (attributes : Attributes) (children : List Node) : Summary where
  id := ((attributes.value? "id".toList).filter (· ≠ "")).getD "process_001"
  name := "Current Process"
  elements := Node.entries (((Node.element name attributes children).openProcess?).getD [])

/-- **The summary of one tree:** the id of its root, and the children of its first process. -/
theorem finish_root {name : String} {attributes : Attributes} {children : List Node}
    (sound : (Node.element name attributes children).Sound) :
    ((Node.element name attributes children).tokens.foldlM step {} >>= finish) =
      .ok (summaryOf name attributes children) := by
  obtain ⟨_, soundAttributes, soundChildren⟩ := sound
  let noted : Outline :=
    { id := (attributes.value? "id".toList).filter (· ≠ ""), rooted := true }
  have taken : note ⟨name.toList, Node.printAttributes attributes⟩ {} = .ok noted := by
    have value := valueOf_print "id" name.toList soundAttributes [] (List.forall_mem_nil _)
    rw [List.append_nil] at value
    unfold note noteRoot
    rw [value]
    rfl
  have walked := foldlM_searched soundChildren rfl rfl taken
    (foldlM_allAhead children soundChildren rfl (List.cons_ne_nil _ _) rfl)
  rw [walked, summaryOf]
  show (noted.passing _).finish = _
  cases (Node.element name attributes children).openProcess? with
  | none => rfl
  | some listed =>
    have order : ((Node.entries listed).reverse ++ []).reverse = Node.entries listed := by simp
    exact congrArg (fun elements => Except.ok (Summary.mk _ _ elements)) order

end Outline

end LaneChart
