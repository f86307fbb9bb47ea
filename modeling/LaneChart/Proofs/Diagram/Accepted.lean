/-
**Which texts can be summarized.** In a text that can be summarized every start tag is closed by an
end tag of its name, and the last element that stands outermost gives the id. But there may be
several of them, and any text around them.

* `Outline.Shows`, `Outline.note_eq_ok_iff`: what a tag shows and changes.
* `Outline.Learns`: what is known at the end of a run, by the tags of the outermost elements.
* `Outline.completes_of_run`: a run that ends with nothing unfinished has ended every element.
* `summarize_nested`: what can be summarized, and when it is a single tree.
* `twoRoots_accepted`: a text with two roots.
-/

import LaneChart.Proofs.Diagram.Outline
import LaneChart.Proofs.Markup.Nesting
import LaneChart.Session.Canvas

namespace LaneChart

open Markup

namespace Outline

/-! ### One step -/

theorem bind_eq_ok {α β : Type} {first : Except Fault α} {next : α → Except Fault β}
    {result : β} (done : (first >>= next) = .ok result) :
    ∃ middle, first = .ok middle ∧ next middle = .ok result := by
  cases first with
  | error fault => cases done
  | ok middle => exact ⟨middle, rfl, done⟩

/-- The id that a tag gives to a document, which is none when it is empty. -/
def Identifies (tag : Tag) (id : Option String) : Prop :=
  ∃ value, valueOf "id" tag = .ok value ∧ id = value.filter (· ≠ "")

/-- The entry by which a tag is listed. -/
def Lists (tag : Tag) (entry : SummaryEntry) : Prop :=
  ∃ id name, valueOf "id" tag = .ok id ∧ valueOf "name" tag = .ok name ∧
    entry = ⟨String.ofList tag.localName, id.getD "", name.getD ""⟩

/-- **What a tag shows in an outline:** outermost the id of the document, and in the process an
entry. -/
structure Shows (outline : Outline) (tag : Tag) (id : Option String)
    (entries : List SummaryEntry) : Prop where
  root : if outline.unfinished = [] then Identifies tag id else id = outline.id
  child : if outline.process = .around outline.unfinished.length then
      ∃ entry, Lists tag entry ∧ entries = [entry]
    else entries = []

theorem noteRoot_eq_ok_iff {outline noted : Outline} {tag : Tag} :
    outline.noteRoot tag = .ok noted ↔
      ∃ id, (if outline.unfinished = [] then Identifies tag id else id = outline.id) ∧
        noted = { outline with id := id } := by
  rw [noteRoot]
  by_cases outermost : outline.unfinished = []
  · rw [if_pos (List.isEmpty_iff.mpr outermost)]
    simp only [if_pos outermost]
    constructor
    · intro done
      obtain ⟨value, read, same⟩ := bind_eq_ok done
      exact ⟨_, ⟨value, read, rfl⟩, (Except.ok.inj same).symm⟩
    · rintro ⟨_, ⟨value, read, rfl⟩, rfl⟩
      rw [read]
      rfl
  · rw [if_neg (mt List.isEmpty_iff.mp outermost)]
    simp only [if_neg outermost]
    constructor
    · intro done
      exact ⟨_, rfl, (Except.ok.inj done).symm⟩
    · rintro ⟨_, rfl, rfl⟩
      rfl

theorem noteChild_eq_ok_iff {outline noted : Outline} {tag : Tag} :
    outline.noteChild tag = .ok noted ↔
      ∃ entries, (if outline.process = .around outline.unfinished.length then
          ∃ entry, Lists tag entry ∧ entries = [entry]
        else entries = []) ∧ noted = { outline with children := entries ++ outline.children } := by
  rw [noteChild]
  by_cases inside : outline.process = .around outline.unfinished.length
  · simp only [if_pos inside]
    constructor
    · intro done
      obtain ⟨id, readId, done⟩ := bind_eq_ok done
      obtain ⟨name, readName, done⟩ := bind_eq_ok done
      exact ⟨_, ⟨_, ⟨id, name, readId, readName, rfl⟩, rfl⟩, (Except.ok.inj done).symm⟩
    · rintro ⟨_, ⟨_, ⟨id, name, readId, readName, rfl⟩, rfl⟩, rfl⟩
      rw [readId, readName]
      rfl
  · simp only [if_neg inside]
    constructor
    · intro done
      exact ⟨_, rfl, (Except.ok.inj done).symm⟩
    · rintro ⟨_, rfl, rfl⟩
      rfl

/-- **What a tag changes:** exactly what it shows. -/
theorem note_eq_ok_iff {outline noted : Outline} {tag : Tag} :
    outline.note tag = .ok noted ↔
      ∃ id entries, outline.Shows tag id entries ∧
        noted = { outline with
          id := id
          children := entries ++ outline.children
          rooted := true } := by
  constructor
  · intro done
    obtain ⟨first, root, done⟩ := bind_eq_ok done
    obtain ⟨second, child, done⟩ := bind_eq_ok done
    obtain ⟨id, isRoot, rfl⟩ := noteRoot_eq_ok_iff.mp root
    obtain ⟨entries, isChild, rfl⟩ := noteChild_eq_ok_iff.mp child
    exact ⟨id, entries, ⟨isRoot, isChild⟩, (Except.ok.inj done).symm⟩
  · rintro ⟨id, entries, ⟨root, child⟩, rfl⟩
    have first : outline.noteRoot tag = .ok { outline with id := id } :=
      noteRoot_eq_ok_iff.mpr ⟨id, root, rfl⟩
    have second : ({ outline with id := id } : Outline).noteChild tag =
        .ok { outline with id := id, children := entries ++ outline.children } :=
      noteChild_eq_ok_iff.mpr ⟨entries, child, rfl⟩
    rw [note, first]
    show ({ outline with id := id } : Outline).noteChild tag >>= _ = _
    rw [second]
    rfl

theorem note_ok {outline noted : Outline} {tag : Tag} (done : outline.note tag = .ok noted) :
    noted.unfinished = outline.unfinished ∧
      (if outline.unfinished = [] then Identifies tag noted.id else noted.id = outline.id) := by
  obtain ⟨id, entries, shows, rfl⟩ := note_eq_ok_iff.mp done
  exact ⟨rfl, shows.root⟩

/-! ### Runs -/

/-- **What is known at the end of a run,** by the tags of the outermost elements in it: the last one
gives the id, and without any nothing has changed. -/
def Learns (outline final : Outline) (roots : List Tag) : Prop :=
  match roots.getLast? with
  | some tag => Identifies tag final.id
  | none => final.id = outline.id ∧ (outline.unfinished = [] → final.rooted = outline.rooted)

/-- A step that changes nothing that is known. -/
theorem Learns.of_same {outline between final : Outline} {roots : List Tag}
    (learns : Learns between final roots) (id : between.id = outline.id)
    (quiet : outline.unfinished = [] → between.unfinished = [] ∧ between.rooted = outline.rooted) :
    Learns outline final roots := by
  rw [Learns] at learns ⊢
  split at learns
  · exact learns
  · obtain ⟨sameId, same⟩ := learns
    refine ⟨sameId.trans id, fun outermost => ?_⟩
    obtain ⟨still, rooted⟩ := quiet outermost
    exact (same still).trans rooted

/-- An outermost element in front: it gives the id unless a later one does. -/
theorem Learns.cons {outline between final : Outline} {roots : List Tag} {tag : Tag}
    (learns : Learns between final roots) (id : Identifies tag between.id) :
    Learns outline final (tag :: roots) := by
  rw [Learns] at learns ⊢
  rw [List.getLast?_cons]
  split at learns
  · rename_i last is
    rw [is]
    exact learns
  · rename_i is
    rw [is]
    show Identifies tag final.id
    rw [learns.1]
    exact id

/-- Only elements are roots. -/
theorem roots_of_rootless {item : Item} (rootless : item.root? = none) (outermost : Bool)
    (items : List Item) :
    (if outermost then item :: items else items).filterMap Item.root? =
      items.filterMap Item.root? := by
  cases outermost with
  | false => rfl
  | true => exact List.filterMap_cons_none rootless

/-- A tag that opens or closes an element, and what is known of it afterwards. -/
theorem Learns.of_note {outline noted between final : Outline} {tag : Tag} {text : List Char}
    {items : List Item} (learns : Learns between final (items.filterMap Item.root?))
    (done : outline.note tag = .ok noted) (id : between.id = noted.id) :
    Learns outline final
      ((if outline.unfinished.isEmpty then .element text tag :: items else items).filterMap
        Item.root?) := by
  obtain ⟨-, noting⟩ := note_ok done
  by_cases outermost : outline.unfinished = []
  · rw [if_pos outermost] at noting
    have root : (Item.element text tag).root? = some tag := rfl
    rw [if_pos (List.isEmpty_iff.mpr outermost), List.filterMap_cons_some root]
    exact learns.cons (id ▸ noting)
  · rw [if_neg outermost] at noting
    rw [if_neg (mt List.isEmpty_iff.mp outermost)]
    exact learns.of_same (id.trans noting) fun is => absurd is outermost

/-- **A run that ends with nothing unfinished** has ended every element that was open, and every one
in it. -/
theorem completes_of_run {text : List Char} {outline final : Outline}
    (sound : (Scan.pieces text).fault = none)
    (run : (Scan.pieces text).tokens.foldlM step outline = .ok final)
    (done : final.unfinished = []) :
    ∃ items, Completes outline.unfinished text items ∧
      Learns outline final (items.filterMap Item.root?) := by
  induction size : text.length using Nat.strong_induction_on generalizing text outline with
  | _ size ih =>
  subst size
  cases text with
  | nil =>
    cases run
    rw [done]
    exact ⟨[], .outermost .nil, rfl, fun _ => rfl⟩
  | cons c rest =>
    by_cases bracket : c = '<'
    · subst bracket
      cases taken : Token.next rest with
      | error fault =>
        rw [Scan.pieces_fault taken] at sound
        cases sound
      | ok found =>
        obtain ⟨token, after⟩ := found
        rw [Scan.pieces_take taken] at sound run
        obtain ⟨between, stepped, run⟩ := bind_eq_ok run
        have shorter : after.length < ('<' :: rest).length :=
          Nat.lt_succ_of_le (Token.next_length_le taken)
        obtain ⟨items, completes, learns⟩ := ih _ shorter sound run rfl
        obtain ⟨piece, markup, same⟩ := exists_piece taken
        rw [same]
        cases token with
        | opening tag =>
          obtain ⟨noted, noting, entered⟩ := bind_eq_ok stepped
          cases entered
          have names : (noted.enter tag).unfinished = tag.name :: outline.unfinished :=
            congrArg _ (note_ok noting).1
          rw [names] at completes
          obtain ⟨element, completes⟩ := completes.opening markup
          exact ⟨_, completes, learns.of_note noting rfl⟩
        | selfClosing tag =>
          rw [(note_ok stepped).1] at completes
          exact ⟨_, completes.cons fun later => .empty markup later, learns.of_note stepped rfl⟩
        | closing name =>
          rw [step, leave] at stepped
          split at stepped
          · cases stepped
          · rename_i expected outer isOpen
            split at stepped
            · rename_i same
              subst same
              cases stepped
              rw [isOpen]
              exact ⟨items, completes.close markup, learns.of_same rfl fun is => by
                rw [isOpen] at is
                cases is⟩
            · cases stepped
        | other =>
          cases stepped
          have rootless : (Item.aside piece).root? = none := rfl
          refine ⟨_, completes.cons fun later => .aside markup later, ?_⟩
          rw [roots_of_rootless rootless]
          exact learns
    · rw [Scan.pieces_skip bracket] at sound run
      obtain ⟨items, completes, learns⟩ := ih _ (Nat.lt_succ_self _) sound run rfl
      have rootless : (Item.char c).root? = none := rfl
      have longer : Completes outline.unfinished ([c] ++ rest) _ :=
        completes.cons fun later => .char bracket later
      refine ⟨_, longer, ?_⟩
      rw [roots_of_rootless rootless]
      exact learns

theorem finish_ok {outline : Outline} {summary : Summary} (done : outline.finish = .ok summary) :
    outline.rooted = true ∧ outline.unfinished = [] ∧
      summary.id = outline.id.getD "process_001" := by
  rw [finish] at done
  split at done
  · cases done
  · rename_i rooted
    split at done
    · cases done
    · rename_i finished
      cases done
      exact ⟨by simpa using rooted, by simpa using finished, rfl⟩

end Outline

/-! ### Summaries -/

/-- **What can be summarized.** Every start tag is closed by an end tag of its name after everything
that was opened in between, there is an element, and the last one that stands outermost gives the
id. The text is a single tree, whose root gives the id, exactly when one element stands outermost
and there is nothing but asides around it. No canvas shows a text that cannot be summarized. -/
theorem summarize_nested (text : String) :
    (∀ canvas : Canvas, (canvas.inspect text).isOk = true → (summarize text).isOk = true) ∧
    ∀ summary, summarize text = .ok summary →
      let identifies : Tag → Prop := fun tag =>
        ∃ id, Outline.Identifies tag id ∧ summary.id = id.getD "process_001"
      ∃ items, IsNested (Scan.afterMark text.toList) items ∧
        (∃ last ∈ (items.filterMap Item.root?).getLast?, identifies last) ∧
        ((∃ root, IsSingleTree (Scan.afterMark text.toList) root ∧ identifies root) ↔
          (items.filterMap Item.root?).length = 1 ∧
            ∀ item ∈ items, item.root? = none → item.isAside = true) := by
  refine ⟨fun canvas shown => ?_, fun summary accepted => ?_⟩
  · rw [Canvas.inspect] at shown
    split at shown
    · cases shown
    · split at shown
      · cases shown
      · rename_i readable
        rw [readable]
        rfl
  intro identifies
  obtain ⟨final, run, accepted⟩ := Outline.bind_eq_ok accepted
  rw [Scan.of_eq] at run accepted
  generalize Scan.afterMark text.toList = text at run accepted ⊢
  split at accepted
  · cases accepted
  · rename_i sound
    obtain ⟨rooted, done, id⟩ := Outline.finish_ok accepted
    obtain ⟨items, completes, learns⟩ := Outline.completes_of_run sound run done
    cases completes with
    | outermost nested =>
      have found : ∃ last ∈ (items.filterMap Item.root?).getLast?, identifies last := by
        rw [Outline.Learns] at learns
        split at learns
        · rename_i last is
          exact ⟨last, is, final.id, learns, id⟩
        · have unrooted := learns.2 rfl
          rw [rooted] at unrooted
          cases unrooted
      refine ⟨items, nested, found, ?_⟩
      obtain ⟨last, isLast, names⟩ := found
      constructor
      · rintro ⟨root, single, -⟩
        obtain ⟨one, asides⟩ := (nested.isSingleTree_iff root).mp single
        exact ⟨by rw [one]; rfl, asides⟩
      · rintro ⟨one, asides⟩
        obtain ⟨root, only⟩ := List.length_eq_one_iff.mp one
        rw [only] at isLast
        cases isLast
        exact ⟨root, (nested.isSingleTree_iff root).mpr ⟨only, asides⟩, names⟩

/-- Two elements, one after the other. -/
def twoRoots : String := "<a id=\"x\"/><b id=\"y\"/>"

/-- **A text with two roots** is accepted, and the second one gives the id. -/
theorem twoRoots_accepted :
    summarize twoRoots = .ok ⟨"y", "Current Process", []⟩ ∧
      ∀ root, ¬ IsSingleTree (Scan.afterMark twoRoots.toList) root := by
  refine ⟨by decide +kernel, fun root single => ?_⟩
  have first : IsPiece "<a id=\"x\"/>".toList (.selfClosing ⟨['a'], " id=\"x\"".toList⟩) :=
    .of_next (by decide +kernel)
  have second : IsPiece "<b id=\"y\"/>".toList (.selfClosing ⟨['b'], " id=\"y\"".toList⟩) :=
    .of_next (by decide +kernel)
  have nested : IsNested (Scan.afterMark twoRoots.toList) _ := .empty first (.empty second .nil)
  cases ((nested.isSingleTree_iff root).mp single).1

/-- An element with a declaration in front of it. -/
def declaredRoot : String := "<?xml version=\"1.0\"?>\n<a id=\"x\"><b/></a>"

theorem summarize_nested_declaredRoot :
    summarize declaredRoot = .ok ⟨"x", "Current Process", []⟩ ∧
      ∃ root, IsSingleTree (Scan.afterMark declaredRoot.toList) root := by
  have accepted : summarize declaredRoot = .ok ⟨"x", "Current Process", []⟩ := by decide +kernel
  have declares : IsPiece "<?xml version=\"1.0\"?>".toList .other := .of_next (by decide +kernel)
  have opens : IsPiece "<a id=\"x\">".toList (.opening ⟨['a'], " id=\"x\"".toList⟩) :=
    .of_next (by decide +kernel)
  have inner : IsPiece "<b/>".toList (.selfClosing ⟨['b'], []⟩) := .of_next (by decide +kernel)
  have closes : IsPiece "</a>".toList (.closing ['a']) := .of_next (by decide +kernel)
  have nested : IsNested (Scan.afterMark declaredRoot.toList) _ :=
    .aside declares (.char (by decide) (.full opens (.empty inner .nil) closes .nil))
  obtain ⟨items, found, -, single⟩ := (summarize_nested declaredRoot).2 _ accepted
  rw [found.unique nested] at single
  obtain ⟨root, tree, -⟩ := single.mpr ⟨by rfl, by decide +kernel⟩
  exact ⟨accepted, root, tree⟩

end LaneChart
