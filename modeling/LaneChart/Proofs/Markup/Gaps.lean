/-
**Places between the attributes of a tag.** A text is cut at such a place, and another attribute can
be written there. If its value is plain, the tag ends where it ended before, however its quotes
stand: what is written there closes every quote that it opens. So the text has the same pieces as
before, with one more attribute in one of them.

* `Token.quoteAfter`, `Token.staysInside`: which quote is open, and where a tag does not end;
  `cutTag_append`: the end of a tag is looked for from there on.
* `IsTag`: what can stand between the brackets of a tag; `isPiece_tag_iff`: that is when it is one
  piece; `IsTag.insert`: an attribute can be added.
* `Scan.pieces_append`, `Scan.exists_split`: where a text can be cut between its pieces.
* `Gap`: a place between the attributes of a tag in a text; `Gap.exists_of_tag`: there is one behind
  each attribute of each tag.
* `Gap.pieces_text`, `Gap.isPiece_insert`: the pieces of the text when an attribute is written there.
-/

import LaneChart.Proofs.Markup.Inserting
import LaneChart.Proofs.Markup.Nesting
import LaneChart.Proofs.Markup.Printing

namespace LaneChart.Markup

namespace Token

/-! ### Quotes -/

/-- The quote that is open behind a character of a tag. -/
def quoteAfter : Option Char → Char → Option Char
  | none, c => if c = '"' || c = '\x27' then some c else none
  | some quote, c => if c = quote then none else some quote

/-- Whether a tag goes on behind a text: every closing bracket in it is between quotes. -/
def staysInside : Option Char → List Char → Bool
  | _, [] => true
  | open_, c :: rest => decide (¬ (open_ = none ∧ c = '>')) && staysInside (quoteAfter open_ c) rest

theorem cutTag_cons (open_ : Option Char) (c : Char) (text : List Char) :
    cutTag? open_ (c :: text) =
      if open_ = none ∧ c = '>' then some ([], text)
      else
        (cutTag? (quoteAfter open_ c) text).map fun (content, after) => (c :: content, after) := by
  cases open_ with
  | none => by_cases bracket : c = '>' <;> simp [cutTag?, quoteAfter, bracket]
  | some quote => simp [cutTag?, quoteAfter]

/-- **Behind a text in which the tag goes on** its end is looked for in the rest. -/
theorem cutTag_append {open_ : Option Char} {front : List Char}
    (inside : staysInside open_ front = true) (text : List Char) :
    cutTag? open_ (front ++ text) = (cutTag? (front.foldl quoteAfter open_) text).map
      fun (content, after) => (front ++ content, after) := by
  induction front generalizing open_ with
  | nil => simp
  | cons c front ih =>
    obtain ⟨goesOn, later⟩ := Bool.and_eq_true_iff.mp inside
    rw [List.cons_append, cutTag_cons, if_neg (of_decide_eq_true goesOn), ih later,
      Option.map_map, List.foldl_cons]
    rfl

/-- What is inside of a tag does not end it. -/
theorem staysInside_of_cut {open_ : Option Char} {front text content rest : List Char}
    (cut : cutTag? open_ (front ++ text) = some (front ++ content, rest)) :
    staysInside open_ front = true := by
  induction front generalizing open_ with
  | nil => rfl
  | cons c front ih =>
    rw [List.cons_append, cutTag_cons] at cut
    split at cut
    · cases cut
    · rename_i goesOn
      obtain ⟨inner, found, same⟩ := Text.map_cons_eq_some cut
      obtain ⟨-, rfl⟩ := List.cons.inj same
      exact Bool.and_eq_true_iff.mpr ⟨decide_eq_true goesOn, ih found⟩

theorem staysInside_of_plain {open_ : Option Char} {text : List Char}
    (plain : ∀ c ∈ text, c ≠ '>') : staysInside open_ text = true := by
  induction text generalizing open_ with
  | nil => rfl
  | cons c text ih =>
    have here : ¬ (open_ = none ∧ c = '>') := fun both => plain c List.mem_cons_self both.2
    exact Bool.and_eq_true_iff.mpr ⟨decide_eq_true here,
      ih fun d member => plain d (List.mem_cons_of_mem c member)⟩

/-- The quotes that can be open, or none. -/
def openQuotes : List (Option Char) := [none, some '"', some '\x27']

theorem quoteAfter_mem {open_ : Option Char} (sound : open_ ∈ openQuotes) (c : Char) :
    quoteAfter open_ c ∈ openQuotes := by
  simp only [openQuotes, List.mem_cons, List.not_mem_nil, or_false] at sound ⊢
  rcases sound with rfl | rfl | rfl <;> simp only [quoteAfter] <;> split <;> simp_all

theorem foldl_quoteAfter_mem {open_ : Option Char} (sound : open_ ∈ openQuotes)
    (text : List Char) : text.foldl quoteAfter open_ ∈ openQuotes := by
  induction text generalizing open_ with
  | nil => exact sound
  | cons c text ih => exact ih (quoteAfter_mem sound c)

/-- Text without quotes leaves open what is open. -/
theorem foldl_quoteAfter_of_plain {open_ : Option Char} (sound : open_ ∈ openQuotes)
    {text : List Char} (plain : ∀ c ∈ text, c ≠ '"' ∧ c ≠ '\x27') :
    text.foldl quoteAfter open_ = open_ := by
  induction text with
  | nil => rfl
  | cons c text ih =>
    obtain ⟨notDouble, notSingle⟩ := plain c List.mem_cons_self
    have same : quoteAfter open_ c = open_ := by
      simp only [openQuotes, List.mem_cons, List.not_mem_nil, or_false] at sound
      rcases sound with rfl | rfl | rfl <;> simp [quoteAfter, notDouble, notSingle]
    rw [List.foldl_cons, same]
    exact ih fun d member => plain d (List.mem_cons_of_mem c member)

/-- Two quotes of one kind leave open what is open. -/
theorem quoteAfter_twice {open_ : Option Char} (sound : open_ ∈ openQuotes) {quote : Char}
    (isQuote : quote = '"' ∨ quote = '\x27') :
    quoteAfter (quoteAfter open_ quote) quote = open_ := by
  simp only [openQuotes, List.mem_cons, List.not_mem_nil, or_false] at sound
  rcases isQuote with rfl | rfl <;> rcases sound with rfl | rfl | rfl <;> decide

end Token

/-- **An attribute with a plain value** does not end the tag it stands in, and it closes every quote
that it opens. -/
theorem WritesAttribute.staysInside {item : Attribute} (named : isName item.key = true)
    (plain : ∀ c ∈ item.value, c ∉ ['<', '>', '"', '\x27']) {added : List Char}
    (written : WritesAttribute item added) {open_ : Option Char}
    (sound : open_ ∈ Token.openQuotes) :
    Token.staysInside open_ added = true ∧ added.foldl Token.quoteAfter open_ = open_ := by
  obtain ⟨head, quote, rfl, plainHead, isQuote, -⟩ := Token.exists_quoted named written
  have plainValue : ∀ c ∈ item.value, c ≠ '>' ∧ c ≠ '"' ∧ c ≠ '\x27' := by
    intro c member
    refine ⟨?_, ?_, ?_⟩ <;> exact fun same => plain c member (by rw [same]; decide)
  have notBracket : quote ≠ '>' := by rcases isQuote with rfl | rfl <;> decide
  constructor
  · refine Token.staysInside_of_plain fun c member => ?_
    simp only [List.mem_append, List.mem_cons, List.not_mem_nil, or_false] at member
    rcases member with member | (rfl | member) | rfl
    · exact (plainHead c member).1
    · exact notBracket
    · exact (plainValue c member).1
    · exact notBracket
  · have inFront : head.foldl Token.quoteAfter open_ = open_ :=
      Token.foldl_quoteAfter_of_plain sound fun c member => (plainHead c member).2
    have between : item.value.foldl Token.quoteAfter (Token.quoteAfter open_ quote) =
        Token.quoteAfter open_ quote :=
      Token.foldl_quoteAfter_of_plain (Token.quoteAfter_mem sound quote) fun c member =>
        (plainValue c member).2
    rw [List.foldl_append, inFront, List.foldl_append]
    show Token.quoteAfter (item.value.foldl Token.quoteAfter (Token.quoteAfter open_ quote)) quote =
      open_
    rw [between]
    exact Token.quoteAfter_twice sound isQuote

namespace Token

/-! ### Tags -/

/-- The piece that a tag is, of an empty element or not. -/
def ofTag (empty : Bool) (tag : Tag) : Token := if empty then .selfClosing tag else .opening tag

/-- How a tag ends in front of its bracket. -/
def slash (empty : Bool) : List Char := if empty then ['/'] else []

theorem between_eq_other {head last text rest : List Char} {fault : Fault} {token : Token}
    (taken : between head last fault text = .ok (token, rest)) : token = .other := by
  rw [between] at taken
  split at taken
  · split at taken
    · cases taken
      rfl
    · cases taken
  · cases taken

/-- A declaration is no tag. -/
theorem declaration_eq_other {text rest : List Char} {token : Token}
    (taken : declaration text = .ok (token, rest)) : token = .other := by
  rw [declaration] at taken
  have ofDoctype : doctype text = .ok (token, rest) → token = .other := by
    intro taken
    rw [doctype] at taken
    split at taken
    · cases taken
    · dsimp only at taken
      split at taken
      · cases taken
      · split at taken
        · cases taken
        · cases taken
          rfl
  split at taken
  · exact between_eq_other taken
  · exact between_eq_other taken
  · exact ofDoctype taken
  · exact ofDoctype taken
  · cases taken

/-- An instruction is no tag. -/
theorem processing_eq_other {text rest : List Char} {token : Token}
    (taken : processing text = .ok (token, rest)) : token = .other := by
  rw [processing] at taken
  split at taken
  · cases taken
  · split at taken
    · cases taken
      rfl
    · cases taken

theorem ofTag_ne_other {empty : Bool} {tag : Tag} : ofTag empty tag ≠ .other := by
  cases empty <;> nofun

/-- **When a tag is taken:** no declaration starts there and no instruction, and the tag that is cut
off is that one. -/
theorem next_eq_tag_iff {text rest : List Char} {empty : Bool} {tag : Tag} :
    next text = .ok (ofTag empty tag, rest) ↔
      (∀ c ∈ text.head?, c ≠ '!' ∧ c ≠ '?') ∧
        ∃ content, cutTag? none text = some (content, rest) ∧
          ofContent content = ofTag empty tag := by
  rw [next.eq_def]
  split
  · refine iff_of_false (fun taken => ?_) fun both => (both.1 '!' rfl).1 rfl
    exact ofTag_ne_other (declaration_eq_other taken)
  · refine iff_of_false (fun taken => ?_) fun both => (both.1 '?' rfl).2 rfl
    exact ofTag_ne_other (processing_eq_other taken)
  · rename_i notDeclaration notInstruction
    have starts : ∀ c ∈ text.head?, c ≠ '!' ∧ c ≠ '?' := by
      intro c first
      obtain ⟨rest, rfl⟩ : ∃ rest, text = c :: rest := by
        cases text with
        | nil => cases first
        | cons d rest => exact ⟨rest, by rw [Option.some.inj first]⟩
      exact ⟨fun same => notDeclaration rest (by rw [same]),
        fun same => notInstruction rest (by rw [same])⟩
    rw [and_iff_right starts]
    cases cutTag? none text with
    | none =>
      constructor
      · intro taken
        cases taken
      · rintro ⟨content, cut, -⟩
        cases cut
    | some cut =>
      obtain ⟨content, after⟩ := cut
      constructor
      · intro taken
        obtain ⟨same, rfl⟩ := Prod.mk.inj (Except.ok.inj taken)
        exact ⟨content, rfl, same⟩
      · rintro ⟨inside, cut, same⟩
        cases cut
        exact congrArg (fun token => Except.ok (token, rest)) same

/-- A tag ends with its bracket. -/
theorem cutTag_eq_append {open_ : Option Char} {text content rest : List Char}
    (cut : cutTag? open_ text = some (content, rest)) : text = content ++ '>' :: rest := by
  induction text generalizing open_ content with
  | nil => cases open_ <;> cases cut
  | cons c text ih =>
    rw [cutTag_cons] at cut
    split at cut
    · rename_i ends
      cases cut
      rw [ends.2, List.nil_append]
    · obtain ⟨inner, found, rfl⟩ := Text.map_cons_eq_some cut
      rw [ih found, List.cons_append]

theorem getLast_slash (front : List Char) : (front ++ slash true).getLast? = some '/' :=
  List.getLast?_concat

/-- A tag is written with all that is in it. -/
theorem eq_of_ofContent {content : List Char} {empty : Bool} {tag : Tag}
    (isTag : ofContent content = ofTag empty tag) :
    content = tag.name ++ tag.inside ++ slash empty := by
  have whole : ∀ content : List Char,
      content = (Tag.ofContent content).name ++ (Tag.ofContent content).inside :=
    fun content => List.takeWhile_append_dropWhile.symm
  rw [ofContent.eq_def] at isTag
  split at isTag
  · cases empty <;> cases isTag
  · split at isTag
    · rename_i closed
      cases empty with
      | false => cases isTag
      | true =>
        cases isTag
        rw [← whole, slash, if_pos rfl]
        exact (List.dropLast_append_getLast? '/' closed).symm
    · cases empty with
      | true => cases isTag
      | false =>
        cases isTag
        rw [← whole, slash, if_neg Bool.false_ne_true, List.append_nil]

/-- **What the inside of a tag is taken for.** -/
theorem ofContent_eq_tag_iff {name inside : List Char} {empty : Bool} :
    ofContent (name ++ inside ++ slash empty) = ofTag empty ⟨name, inside⟩ ↔
      (∀ c ∈ (name ++ inside ++ slash empty).head?, c ≠ '/') ∧
        (empty = false → (name ++ inside).getLast? ≠ some '/') ∧
        (∀ c ∈ name, Text.isBlank c = false) ∧ ∀ c ∈ inside.head?, Text.isBlank c = true := by
  have tag : Tag.ofContent (name ++ inside) = ⟨name, inside⟩ ↔
      (∀ c ∈ name, Text.isBlank c = false) ∧ ∀ c ∈ inside.head?, Text.isBlank c = true := by
    refine ⟨fun same => ?_, fun both => tag_ofContent both.1 both.2⟩
    obtain ⟨isName, isInside⟩ := Tag.mk.inj same
    refine ⟨fun c member => ?_, fun c first => ?_⟩
    · rw [← isName] at member
      simpa using List.mem_takeWhile_imp member
    · have stops := List.head?_dropWhile_not (!Text.isBlank ·) (name ++ inside)
      rw [isInside, first] at stops
      simpa using stops
  rw [ofContent.eq_def]
  split
  · rename_i rest starts
    refine iff_of_false (fun same => ?_) fun both => both.1 '/' (by rw [starts]; rfl) rfl
    cases empty <;> cases same
  · rename_i notSlash
    have starts : ∀ c ∈ (name ++ inside ++ slash empty).head?, c ≠ '/' := by
      intro c first same
      subst same
      cases shape : name ++ inside ++ slash empty with
      | nil =>
        rw [shape] at first
        cases first
      | cons d rest =>
        rw [shape] at first
        cases first
        exact notSlash rest shape
    rw [and_iff_right starts, ← tag]
    cases empty with
    | true =>
      rw [if_pos (getLast_slash _), slash, if_pos rfl, List.dropLast_concat, ofTag, if_pos rfl]
      exact ⟨fun same => ⟨nofun, Token.selfClosing.inj same⟩, fun both => congrArg _ both.2⟩
    | false =>
      rw [slash, if_neg Bool.false_ne_true, List.append_nil, ofTag, if_neg Bool.false_ne_true]
      by_cases closed : (name ++ inside).getLast? = some '/'
      · rw [if_pos closed]
        exact iff_of_false nofun fun both => both.1 rfl closed
      · rw [if_neg closed]
        exact ⟨fun same => ⟨fun _ => closed, Token.opening.inj same⟩, fun both => congrArg _ both.2⟩

end Token

/-- **What can stand between the brackets of a tag:** a name up to the first blank, its inside, and
a slash if the element is empty. It starts like no other piece, and no bracket before the last one
ends it. -/
structure IsTag (name inside : List Char) (empty : Bool) : Prop where
  starts : ∀ c ∈ (name ++ inside ++ Token.slash empty).head?, c ∉ ['/', '!', '?']
  isOpen : empty = false → (name ++ inside).getLast? ≠ some '/'
  solid : ∀ c ∈ name, Text.isBlank c = false
  apart : ∀ c ∈ inside.head?, Text.isBlank c = true
  cut : Token.cutTag? none (name ++ inside ++ Token.slash empty ++ ['>']) =
    some (name ++ inside ++ Token.slash empty, [])

theorem isPiece_tag_iff {name inside : List Char} {empty : Bool} :
    IsPiece ('<' :: (name ++ inside ++ Token.slash empty ++ ['>'])) (.ofTag empty ⟨name, inside⟩) ↔
      IsTag name inside empty := by
  constructor
  · rintro ⟨piece, same, takes⟩
    obtain rfl := (List.cons.inj same).2
    have taken := takes []
    rw [List.append_nil] at taken
    obtain ⟨first, content, cut, isTag⟩ := Token.next_eq_tag_iff.mp taken
    obtain rfl := List.append_cancel_right (Token.cutTag_eq_append cut)
    obtain ⟨notEnd, isOpen, solid, apart⟩ := Token.ofContent_eq_tag_iff.mp isTag
    refine ⟨fun c member => ?_, isOpen, solid, apart, cut⟩
    obtain ⟨notDeclaration, notInstruction⟩ := first c (List.mem_head?_append_of_mem_head? member)
    simp [notEnd c member, notDeclaration, notInstruction]
  · intro tag
    refine .of_next (Token.next_eq_tag_iff.mpr ⟨fun c first => ?_, _, tag.cut, ?_⟩)
    · rw [List.head?_append] at first
      cases starts : (name ++ inside ++ Token.slash empty).head? with
      | none =>
        rw [starts] at first
        cases first
        decide
      | some d =>
        rw [starts] at first
        cases first
        have special := tag.starts c starts
        simp only [List.mem_cons, not_or] at special
        exact ⟨special.2.1, special.2.2.1⟩
    · refine Token.ofContent_eq_tag_iff.mpr ⟨fun c member => ?_, tag.isOpen, tag.solid, tag.apart⟩
      rintro rfl
      exact tag.starts _ member List.mem_cons_self

/-- A tag is a piece in one way only. -/
theorem IsPiece.eq_of_tag {piece : List Char} {empty : Bool} {tag : Tag}
    (isPiece : IsPiece piece (.ofTag empty tag)) :
    piece = '<' :: (tag.name ++ tag.inside ++ Token.slash empty ++ ['>']) := by
  obtain ⟨inside, rfl, takes⟩ := isPiece
  have taken := takes []
  rw [List.append_nil] at taken
  obtain ⟨-, content, cut, isTag⟩ := Token.next_eq_tag_iff.mp taken
  rw [Token.cutTag_eq_append cut, Token.eq_of_ofContent isTag]

theorem WritesAttribute.head_blank {item : Attribute} {text : List Char}
    (written : WritesAttribute item text) (rest : List Char) :
    ∃ space more, text ++ rest = space :: more ∧ Text.isBlank space = true := by
  cases written with
  | intro apart blank =>
    obtain ⟨space, front, rfl⟩ := List.exists_cons_of_ne_nil apart
    exact ⟨space, _, rfl, blank space (by simp)⟩

theorem WritesAttribute.getLast_quote {item : Attribute} {text : List Char}
    (written : WritesAttribute item text) :
    ∃ quote, text.getLast? = some quote ∧ quote ≠ '/' := by
  cases written with
  | @intro front before after quote apart blank isQuote =>
    refine ⟨quote, ?_, by rcases isQuote with rfl | rfl <;> decide⟩
    have shape : front ++ item.key ++ before ++ '=' :: (after ++ quote :: (item.value ++ [quote])) =
        (front ++ item.key ++ before ++ '=' :: (after ++ quote :: item.value)) ++ [quote] := by simp
    rw [shape, List.getLast?_concat]

/-- **An attribute can be added to a tag.** -/
theorem IsTag.insert {name front back : List Char} {empty : Bool}
    (tag : IsTag name (front ++ back) empty) {item : Attribute} (named : isName item.key = true)
    (plain : ∀ c ∈ item.value, c ∉ ['<', '>', '"', '\x27']) {added : List Char}
    (written : WritesAttribute item added) : IsTag name (front ++ (added ++ back)) empty where
  starts := by
    intro c first
    obtain ⟨space, more, shape, blank⟩ := written.head_blank back
    rw [shape] at first
    cases name with
    | cons d name => exact tag.starts c first
    | nil =>
      cases front with
      | cons d front => exact tag.starts c first
      | nil =>
        cases first
        intro special
        simp only [List.mem_cons, List.not_mem_nil, or_false] at special
        rcases special with rfl | rfl | rfl <;> cases blank
  isOpen := by
    intro full
    obtain ⟨quote, last, notSlash⟩ := written.getLast_quote
    have before := tag.isOpen full
    rw [← List.append_assoc, List.getLast?_append] at before
    rw [← List.append_assoc, ← List.append_assoc, List.getLast?_append, List.getLast?_append, last]
    cases closing : back.getLast? with
    | none => simpa using notSlash
    | some c =>
      rw [closing] at before
      exact before
  solid := tag.solid
  apart := by
    intro c first
    obtain ⟨space, more, shape, blank⟩ := written.head_blank back
    rw [shape] at first
    cases front with
    | cons d front => exact tag.apart c first
    | nil =>
      cases first
      exact blank
  cut := by
    have shape : ∀ middle : List Char, name ++ (front ++ middle) ++ Token.slash empty =
        name ++ front ++ (middle ++ Token.slash empty) := by
      intro middle
      simp
    have cut := tag.cut
    rw [shape, List.append_assoc (name ++ front)] at cut
    have inside := Token.staysInside_of_cut cut
    rw [Token.cutTag_append inside] at cut
    obtain ⟨⟨content, rest⟩, found, same⟩ := Option.map_eq_some_iff.mp cut
    obtain ⟨contents, ends⟩ := Prod.mk.inj same
    obtain rfl : content = back ++ Token.slash empty := List.append_cancel_left contents
    obtain rfl : rest = [] := ends
    -- Behind the attribute the same quote is open as in front of it.
    have isOpen : (name ++ front).foldl Token.quoteAfter none ∈ Token.openQuotes :=
      Token.foldl_quoteAfter_mem List.mem_cons_self _
    obtain ⟨goesOn, still⟩ := written.staysInside named plain isOpen
    rw [shape, List.append_assoc (name ++ front), Token.cutTag_append inside,
      List.append_assoc added, List.append_assoc added, Token.cutTag_append goesOn, still, found]
    rfl

namespace Scan

/-! ### Texts -/

/-- A byte order mark in front is passed over like any other text. -/
theorem of_eq_pieces (text : List Char) : of text = pieces text := by
  rw [of_eq, afterMark.eq_def]
  split
  · exact (pieces_skip (by decide) _).symm
  · rfl

/-- **The pieces of a text that can be cut into pieces,** with anything behind it. -/
theorem pieces_append {text : List Char} (whole : (pieces text).fault = none) (rest : List Char) :
    pieces (text ++ rest) = (pieces rest).prepend (pieces text).tokens := by
  induction size : text.length using Nat.strong_induction_on generalizing text with
  | _ size ih =>
  subst size
  cases text with
  | nil => rfl
  | cons c text =>
    by_cases bracket : c = '<'
    · subst bracket
      cases taken : Token.next text with
      | error fault =>
        rw [pieces_fault taken] at whole
        cases whole
      | ok found =>
        obtain ⟨token, after⟩ := found
        rw [pieces_take taken] at whole ⊢
        obtain ⟨piece, -, rfl, again⟩ := Token.next_local taken
        have shorter : after.length < ('<' :: (piece ++ after)).length := by
          simp only [List.length_cons, List.length_append]
          omega
        have takenMore : Token.next (piece ++ after ++ rest) = .ok (token, after ++ rest) := by
          rw [List.append_assoc]
          exact again _
        rw [List.cons_append, pieces_take takenMore, ih _ shorter whole rfl, prepend_prepend]
        rfl
    · rw [pieces_skip bracket] at whole ⊢
      rw [List.cons_append, pieces_skip bracket]
      exact ih _ (Nat.lt_succ_self _) whole rfl

/-- **A text can be cut in front of each of its pieces.** -/
theorem exists_split {text : List Char} {front back : List Token} {token : Token}
    (found : (pieces text).tokens = front ++ token :: back) :
    ∃ before piece after, text = before ++ (piece ++ after) ∧ pieces before = ⟨front, none⟩ ∧
      IsPiece piece token := by
  induction size : text.length using Nat.strong_induction_on generalizing text front with
  | _ size ih =>
  subst size
  cases text with
  | nil =>
    rw [pieces_nil] at found
    cases front <;> cases found
  | cons c text =>
    by_cases bracket : c = '<'
    · subst bracket
      cases taken : Token.next text with
      | error fault =>
        rw [pieces_fault taken] at found
        cases front <;> cases found
      | ok next =>
        obtain ⟨first, rest⟩ := next
        rw [pieces_take taken] at found
        obtain ⟨piece, markup, shape⟩ := exists_piece taken
        cases front with
        | nil =>
          obtain ⟨rfl, -⟩ := List.cons.inj found
          exact ⟨[], piece, rest, shape, rfl, markup⟩
        | cons head front =>
          obtain ⟨rfl, later⟩ := List.cons.inj found
          replace later : (pieces rest).tokens = front ++ token :: back := later
          have shorter : rest.length < ('<' :: text).length :=
            Nat.lt_succ_of_le (Token.next_length_le taken)
          obtain ⟨before, wanted, after, rfl, whole, isPiece⟩ := ih _ shorter later rfl
          refine ⟨piece ++ before, wanted, after, by rw [shape]; simp, ?_, isPiece⟩
          obtain ⟨inside, rfl, takes⟩ := markup
          rw [List.cons_append, pieces_take (takes before), whole]
          rfl
    · rw [pieces_skip bracket] at found
      obtain ⟨before, piece, after, rfl, whole, isPiece⟩ := ih _ (Nat.lt_succ_self _) found rfl
      exact ⟨c :: before, piece, after, rfl, by rw [pieces_skip bracket, whole], isPiece⟩

end Scan

/-! ### Gaps -/

/-- **A text that is cut inside of a tag:** what is in front of the tag, its name, its inside in two
parts, whether the element is empty, and what is behind the tag. -/
structure CutText where
  before : List Char
  name : List Char
  front : List Char
  back : List Char
  empty : Bool
  after : List Char

namespace CutText

/-- The tag when something is written at the cut. -/
def tag (cut : CutText) (added : List Char) : Tag := ⟨cut.name, cut.front ++ (added ++ cut.back)⟩

/-- The tag as a piece. -/
def token (cut : CutText) (added : List Char) : Token := .ofTag cut.empty (cut.tag added)

/-- The tag as it is written. -/
def piece (cut : CutText) (added : List Char) : List Char :=
  '<' :: (cut.name ++ (cut.front ++ (added ++ cut.back)) ++ Token.slash cut.empty ++ ['>'])

/-- The whole text. -/
def text (cut : CutText) (added : List Char) : List Char :=
  cut.before ++ (cut.piece added ++ cut.after)

end CutText

/-- **A place between the attributes of a tag:** what is in front of the tag can be cut into pieces,
the tag is the next one, and what is in it in front of the place can be read as attributes. -/
structure Gap extends CutText where
  attributes : List Attribute
  whole : (Scan.pieces before).fault = none
  isPiece : IsPiece (toCutText.piece []) (toCutText.token [])
  complete : (Tag.mk name front).attributes = (attributes, none)

namespace Gap

/-- **The pieces of a text with a tag in it,** whatever stands at the cut. -/
theorem pieces_text (gap : Gap) {added : List Char}
    (isPiece : IsPiece (gap.piece added) (gap.token added)) :
    Scan.pieces (gap.text added) = (Scan.pieces gap.after).prepend
      ((Scan.pieces gap.before).tokens ++ [gap.token added]) := by
  obtain ⟨inside, shape, takes⟩ := isPiece
  rw [CutText.text, Scan.pieces_append gap.whole, shape, List.cons_append,
    Scan.pieces_take (takes gap.after), Scan.prepend_prepend]

/-- **An attribute that is written in a gap** leaves the tag a piece. -/
theorem isPiece_insert (gap : Gap) {item : Attribute} (named : isName item.key = true)
    (plain : ∀ c ∈ item.value, c ∉ ['<', '>', '"', '\x27']) {added : List Char}
    (written : WritesAttribute item added) : IsPiece (gap.piece added) (gap.token added) :=
  isPiece_tag_iff.mpr ((isPiece_tag_iff.mp gap.isPiece).insert named plain written)

/-- **There is a gap behind each attribute of each tag,** and in front of the first one. -/
theorem exists_of_tag {text : List Char} {front back : List Token} {empty : Bool} {tag : Tag}
    (found : (Scan.pieces text).tokens = front ++ .ofTag empty tag :: back)
    {items later : List Attribute} (attributes : tag.attributes.1 = items ++ later) :
    ∃ gap : Gap, gap.text [] = text ∧ (Scan.pieces gap.before).tokens = front ∧
      gap.tag [] = tag ∧ gap.empty = empty ∧ gap.attributes = items := by
  obtain ⟨before, piece, after, rfl, whole, isPiece⟩ := Scan.exists_split found
  obtain ⟨inside, behind, shape, complete⟩ := Tag.exists_cut attributes
  obtain ⟨name, content⟩ := tag
  obtain rfl : content = inside ++ behind := shape
  have written := isPiece.eq_of_tag
  subst written
  exact ⟨⟨⟨before, name, inside, behind, empty, after⟩, items, by rw [whole], isPiece, complete⟩,
    rfl, by rw [whole], rfl, rfl, rfl⟩

end Gap

end LaneChart.Markup
