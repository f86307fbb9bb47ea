/-
**Texts in which elements are nested.** What a piece of markup is does not depend on what follows
it, so a text falls into pieces in one way only. In some texts every start tag is closed by an end
tag of its own name after everything that was opened in between, and what stands outermost can be
listed.

* `IsPiece`: a piece of markup, from one angle bracket to another.
* `Item`, `IsNested`: texts in which elements are nested, with what stands outermost.
* `IsNested.unique`: there is one way only to read a text like that.
* `IsSingleTree`: one element, and around it nothing but blanks, comments, declarations and
  instructions; `IsNested.isSingleTree_iff`: which nested texts are like that.
* `Completes`: a text that ends elements that are open already.
-/

import LaneChart.Proofs.Markup.Scanning

namespace LaneChart.Markup

/-! ### Pieces -/

/-- **A piece of markup,** from an opening angle bracket up to where the reader goes on. -/
def IsPiece (text : List Char) (token : Token) : Prop :=
  ∃ inside, text = '<' :: inside ∧ Takes Token.next inside token

/-- What a reader takes is a piece. -/
theorem exists_piece {body rest : List Char} {token : Token}
    (taken : Token.next body = .ok (token, rest)) :
    ∃ piece, IsPiece piece token ∧ '<' :: body = piece ++ rest := by
  obtain ⟨inside, -, rfl, again⟩ := Token.next_local taken
  exact ⟨'<' :: inside, ⟨inside, rfl, again⟩, rfl⟩

/-- A piece with which a text ends. -/
theorem IsPiece.of_next {inside : List Char} {token : Token}
    (taken : Token.next inside = .ok (token, [])) : IsPiece ('<' :: inside) token := by
  obtain ⟨piece, -, same, again⟩ := Token.next_local taken
  rw [List.append_nil] at same
  exact ⟨piece, same ▸ rfl, again⟩

theorem IsPiece.ne_char {piece rest text : List Char} {token : Token} {c : Char}
    (markup : IsPiece piece token) (plain : c ≠ '<') : c :: text ≠ piece ++ rest := by
  obtain ⟨inside, rfl, -⟩ := markup
  exact fun same => plain (List.cons.inj same).1

theorem IsPiece.ne_nil {piece rest : List Char} {token : Token} (markup : IsPiece piece token) :
    piece ++ rest ≠ [] := by
  obtain ⟨inside, rfl, -⟩ := markup
  exact List.cons_ne_nil _ _

/-- **Two pieces at the front of one text are the same.** -/
theorem IsPiece.unique {piece other rest after : List Char} {token found : Token}
    (first : IsPiece piece token) (second : IsPiece other found)
    (same : piece ++ rest = other ++ after) : piece = other ∧ token = found ∧ rest = after := by
  obtain ⟨inside, rfl, again⟩ := first
  obtain ⟨otherInside, rfl, otherAgain⟩ := second
  have inner : inside ++ rest = otherInside ++ after := (List.cons.inj same).2
  have taken := (again rest).symm.trans (inner ▸ otherAgain after)
  obtain ⟨rfl, rfl⟩ := Prod.mk.inj (Except.ok.inj taken)
  exact ⟨congrArg _ (List.append_cancel_right inner), rfl, rfl⟩

/-! ### Nested elements -/

/-- **What stands outermost in a text:** characters between the markup, comments and other markup
that opens nothing, and whole elements with the tags that start them. -/
inductive Item where
  | char (c : Char)
  | aside (piece : List Char)
  | element (text : List Char) (tag : Tag)
deriving DecidableEq

/-- **A text in which elements are nested:** every start tag is closed by an end tag of its name,
after what is nested in between. -/
inductive IsNested : List Char → List Item → Prop where
  | nil : IsNested [] []
  | char {c : Char} {rest : List Char} {items : List Item} (plain : c ≠ '<')
      (more : IsNested rest items) : IsNested (c :: rest) (.char c :: items)
  | aside {piece rest : List Char} {items : List Item} (markup : IsPiece piece .other)
      (more : IsNested rest items) : IsNested (piece ++ rest) (.aside piece :: items)
  | empty {piece rest : List Char} {tag : Tag} {items : List Item}
      (markup : IsPiece piece (.selfClosing tag)) (more : IsNested rest items) :
      IsNested (piece ++ rest) (.element piece tag :: items)
  | full {piece content closing rest : List Char} {tag : Tag} {inside items : List Item}
      (opens : IsPiece piece (.opening tag)) (inner : IsNested content inside)
      (closes : IsPiece closing (.closing tag.name)) (more : IsNested rest items) :
      IsNested (piece ++ (content ++ (closing ++ rest)))
        (.element (piece ++ (content ++ closing)) tag :: items)

/-- What can follow nested elements: nothing, or the end tag of an element around them. -/
def EndsNesting (text : List Char) : Prop :=
  text = [] ∨ ∃ piece name rest, IsPiece piece (.closing name) ∧ text = piece ++ rest

namespace IsNested

variable {text rest after : List Char} {items : List Item}

/-- A nested text that starts with a character. -/
theorem of_char (nested : IsNested text items) (ends : EndsNesting after) {c : Char}
    (plain : c ≠ '<') (same : c :: rest = text ++ after) :
    ∃ text' items', text = c :: text' ∧ items = .char c :: items' ∧ IsNested text' items' ∧
      rest = text' ++ after := by
  cases nested with
  | nil =>
    rcases ends with rfl | ⟨piece, name, later, closes, rfl⟩
    · cases same
    · exact absurd same (closes.ne_char plain)
  | char _ more =>
    obtain ⟨rfl, rfl⟩ := List.cons.inj same
    exact ⟨_, _, rfl, rfl, more, rfl⟩
  | aside markup more =>
    rw [List.append_assoc] at same
    exact absurd same (markup.ne_char plain)
  | empty markup more =>
    rw [List.append_assoc] at same
    exact absurd same (markup.ne_char plain)
  | full opens inner closes more =>
    rw [List.append_assoc] at same
    exact absurd same (opens.ne_char plain)

/-- **A nested text that starts with a piece of markup.** -/
theorem of_piece (nested : IsNested text items) (ends : EndsNesting after) {piece : List Char}
    {token : Token} (markup : IsPiece piece token) (same : piece ++ rest = text ++ after) :
    match token with
    | .closing _ => text = [] ∧ items = []
    | .other => ∃ text' items', text = piece ++ text' ∧ items = .aside piece :: items' ∧
        IsNested text' items' ∧ rest = text' ++ after
    | .selfClosing tag => ∃ text' items', text = piece ++ text' ∧
        items = .element piece tag :: items' ∧ IsNested text' items' ∧ rest = text' ++ after
    | .opening tag => ∃ content closing text' inside items',
        text = piece ++ (content ++ (closing ++ text')) ∧
        items = .element (piece ++ (content ++ closing)) tag :: items' ∧
        IsNested content inside ∧ IsPiece closing (.closing tag.name) ∧ IsNested text' items' ∧
        rest = content ++ (closing ++ (text' ++ after)) := by
  cases nested with
  | nil =>
    rcases ends with rfl | ⟨other, name, later, closes, rfl⟩
    · exact absurd same markup.ne_nil
    · obtain ⟨-, rfl, -⟩ := markup.unique closes same
      exact ⟨rfl, rfl⟩
  | char plain more => exact absurd same.symm (markup.ne_char plain)
  | aside found more =>
    rw [List.append_assoc] at same
    obtain ⟨rfl, rfl, rfl⟩ := markup.unique found same
    exact ⟨_, _, rfl, rfl, more, rfl⟩
  | empty found more =>
    rw [List.append_assoc] at same
    obtain ⟨rfl, rfl, rfl⟩ := markup.unique found same
    exact ⟨_, _, rfl, rfl, more, rfl⟩
  | full opens inner closes more =>
    simp only [List.append_assoc] at same
    obtain ⟨rfl, rfl, rfl⟩ := markup.unique opens same
    exact ⟨_, _, _, _, _, rfl, rfl, inner, closes, more, rfl⟩

theorem items_of_nil (nested : IsNested [] items) : items = [] := by
  generalize empty : ([] : List Char) = text at nested
  cases nested with
  | nil => rfl
  | char plain more => cases empty
  | aside markup more => exact absurd empty.symm markup.ne_nil
  | empty markup more => exact absurd empty.symm markup.ne_nil
  | full opens inner closes more => exact absurd empty.symm opens.ne_nil

/-- **There is one way only to read a nested text,** up to where it ends. -/
theorem unique_before (nested : IsNested text items) {other : List Char} {others : List Item}
    (second : IsNested other others) (ends : EndsNesting rest) (otherEnds : EndsNesting after)
    (same : text ++ rest = other ++ after) : text = other ∧ items = others ∧ rest = after := by
  induction nested generalizing other others rest after with
  | nil =>
    rcases ends with rfl | ⟨piece, name, later, closes, rfl⟩
    · obtain ⟨rfl, rfl⟩ := List.append_eq_nil_iff.mp same.symm
      exact ⟨rfl, second.items_of_nil.symm, rfl⟩
    · obtain ⟨rfl, rfl⟩ := second.of_piece otherEnds closes same
      exact ⟨rfl, rfl, same⟩
  | char plain more ih =>
    obtain ⟨text', items', rfl, rfl, second', same'⟩ := second.of_char otherEnds plain same
    obtain ⟨rfl, rfl, rfl⟩ := ih second' ends otherEnds same'
    exact ⟨rfl, rfl, rfl⟩
  | aside markup more ih =>
    rw [List.append_assoc] at same
    obtain ⟨text', items', rfl, rfl, second', same'⟩ := second.of_piece otherEnds markup same
    obtain ⟨rfl, rfl, rfl⟩ := ih second' ends otherEnds same'
    exact ⟨rfl, rfl, rfl⟩
  | empty markup more ih =>
    rw [List.append_assoc] at same
    obtain ⟨text', items', rfl, rfl, second', same'⟩ := second.of_piece otherEnds markup same
    obtain ⟨rfl, rfl, rfl⟩ := ih second' ends otherEnds same'
    exact ⟨rfl, rfl, rfl⟩
  | full opens inner closes more ihInner ih =>
    simp only [List.append_assoc] at same
    obtain ⟨content', closing', text', inside', items', rfl, rfl, inner', closes', second',
      same'⟩ := second.of_piece otherEnds opens same
    obtain ⟨rfl, rfl, sameRest⟩ := ihInner inner' (.inr ⟨_, _, _, closes, rfl⟩)
      (.inr ⟨_, _, _, closes', rfl⟩) same'
    obtain ⟨rfl, -, sameOutside⟩ := closes.unique closes' sameRest
    obtain ⟨rfl, rfl, rfl⟩ := ih second' ends otherEnds sameOutside
    exact ⟨rfl, rfl, rfl⟩

/-- **There is one way only to read a nested text.** -/
theorem unique {others : List Item} (nested : IsNested text items) (second : IsNested text others) :
    items = others :=
  (nested.unique_before second (.inl rfl) (.inl rfl) rfl).2.1

end IsNested

/-! ### Single trees -/

namespace Item

/-- The tag that starts an element. -/
def root? : Item → Option Tag
  | .element _ tag => some tag
  | .char _ | .aside _ => none

/-- **What may stand beside the root of a document:** blanks, comments, declarations and
instructions, but no other text, and no text in a CDATA section either. -/
def isAside : Item → Bool
  | .char c => Text.isBlank c
  | .aside piece => !Text.starts "<![CDATA[".toList piece
  | .element _ _ => false

end Item

/-- **One element** in which all others are nested, and only asides around it. -/
def IsSingleTree (text : List Char) (tag : Tag) : Prop :=
  ∃ before root after, IsNested text (before ++ .element root tag :: after) ∧
    ∀ item ∈ before ++ after, item.isAside = true

theorem root_of_isAside {item : Item} (aside : item.isAside = true) : item.root? = none := by
  cases item with
  | element text tag => cases aside
  | char c => rfl
  | aside piece => rfl

/-- **Which nested texts are single trees:** those with one element outermost and nothing but asides
otherwise. -/
theorem IsNested.isSingleTree_iff {text : List Char} {items : List Item}
    (nested : IsNested text items) (tag : Tag) :
    IsSingleTree text tag ↔
      items.filterMap Item.root? = [tag] ∧
        ∀ item ∈ items, item.root? = none → item.isAside = true := by
  constructor
  · rintro ⟨before, root, after, single, asides⟩
    obtain rfl := nested.unique single
    have rootless : ∀ {part : List Item}, (∀ item ∈ part, item ∈ before ++ after) →
        part.filterMap Item.root? = [] := fun inside =>
      List.filterMap_eq_nil_iff.mpr fun item member =>
        root_of_isAside (asides item (inside item member))
    refine ⟨?_, fun item member plain => ?_⟩
    · have root : (Item.element root tag).root? = some tag := rfl
      rw [List.filterMap_append, List.filterMap_cons_some root,
        rootless fun item => List.mem_append_left _, rootless fun item => List.mem_append_right _]
      rfl
    · rcases List.mem_append.mp member with early | late
      · exact asides item (List.mem_append_left _ early)
      · rcases List.mem_cons.mp late with rfl | later
        · cases plain
        · exact asides item (List.mem_append_right _ later)
  · rintro ⟨one, asides⟩
    obtain ⟨before, item, after, rfl, early, found, late⟩ := List.filterMap_eq_cons_iff.mp one
    cases item with
    | char c => cases found
    | aside piece => cases found
    | element root other =>
      cases found
      refine ⟨before, root, after, nested, fun item member => ?_⟩
      rcases List.mem_append.mp member with first | last
      · exact asides item (List.mem_append_left _ first) (early item first)
      · exact asides item (List.mem_append_right _ (List.mem_cons_of_mem _ last))
          (List.filterMap_eq_nil_iff.mp late item last)

/-! ### Elements that are open already -/

/-- **A text that ends elements that are open already,** innermost first, and has more nested
elements between and after their end tags. What stands outermost is listed from where the last of
them has ended. -/
inductive Completes : List (List Char) → List Char → List Item → Prop where
  | outermost {text : List Char} {items : List Item} (nested : IsNested text items) :
      Completes [] text items
  | closing {name content piece rest : List Char} {names : List (List Char)}
      {inside items : List Item} (nested : IsNested content inside)
      (closes : IsPiece piece (.closing name)) (more : Completes names rest items) :
      Completes (name :: names) (content ++ (piece ++ rest)) items

namespace Completes

/-- **Something nested in front:** it stands outermost when no element is open. -/
theorem cons {names : List (List Char)} {text piece : List Char} {items : List Item} {item : Item}
    (first : ∀ {rest inside}, IsNested rest inside → IsNested (piece ++ rest) (item :: inside))
    (more : Completes names text items) :
    Completes names (piece ++ text) (if names.isEmpty then item :: items else items) := by
  cases more with
  | outermost nested => exact .outermost (first nested)
  | closing nested closes more =>
    rw [← List.append_assoc]
    exact .closing (first nested) closes more

/-- **An end tag in front.** -/
theorem close {name piece text : List Char} {names : List (List Char)} {items : List Item}
    (closes : IsPiece piece (.closing name)) (more : Completes names text items) :
    Completes (name :: names) (piece ++ text) items :=
  .closing .nil closes more

/-- **A start tag in front:** with what ends its element, it is an element. -/
theorem opening {tag : Tag} {piece text : List Char} {names : List (List Char)} {items : List Item}
    (opens : IsPiece piece (.opening tag)) (more : Completes (tag.name :: names) text items) :
    ∃ element, Completes names (piece ++ text)
      (if names.isEmpty then .element element tag :: items else items) := by
  cases more with
  | @closing _ content closing rest _ inside _ nested closes more =>
    refine ⟨piece ++ (content ++ closing), ?_⟩
    have first : ∀ {rest inside'}, IsNested rest inside' →
        IsNested (piece ++ (content ++ closing) ++ rest)
          (.element (piece ++ (content ++ closing)) tag :: inside') := fun later => by
      simpa only [List.append_assoc] using IsNested.full opens nested closes later
    simpa only [List.append_assoc] using more.cons first

end Completes

end LaneChart.Markup
