/-
**The span between the outermost braces.** It goes from the first opening brace to the last closing
one. It may as well be cut out of the bytes of a text: a brace is a byte of its own, and no other
character has a byte like it.

* `Outermost`: a list that is cut around such a span.
* `braceSpan_eq_some_iff`: the span that is looked for.
* `exists_of_flatMap_eq`: where what is written item by item can be cut.
* `char_of_ascii`: an ASCII byte is a character.
* `outermost_bytes_iff`: cutting bytes is cutting characters.
-/

import Mathlib.Data.List.TakeWhile
import LaneChart.Text.Search

namespace LaneChart.Text

/-- **A list is cut around its outermost span,** from the first opening mark to the last closing
one. -/
structure Outermost {α : Type} (opening closing : α) (text before span after : List α) : Prop where
  split : text = before ++ (span ++ after)
  marked : ∃ inner, span = opening :: (inner ++ [closing])
  first : opening ∉ before
  last : closing ∉ after

/-! ### Braces -/

/-- In front of the first mark everything is passed over. -/
theorem dropWhile_mark {mark : Char} {front : List Char} (absent : mark ∉ front)
    (rest : List Char) : (front ++ mark :: rest).dropWhile (· ≠ mark) = mark :: rest := by
  have other : ∀ c ∈ front, decide (c ≠ mark) = true := by
    intro c member
    exact decide_eq_true fun same => absent (same ▸ member)
  rw [List.dropWhile_append_of_pos other]
  exact List.dropWhile_cons_of_neg (by simp)

theorem throughLastBrace_eq_none_iff {text : List Char} :
    throughLastBrace? text = none ↔ '\x7d' ∉ text := by
  induction text with
  | nil => exact ⟨fun _ => List.not_mem_nil, fun _ => rfl⟩
  | cons c text ih =>
    rw [throughLastBrace?, List.mem_cons, not_or, ← ih]
    cases throughLastBrace? text with
    | some kept => exact ⟨nofun, fun absent => nomatch absent.2⟩
    | none =>
      by_cases brace : c = '\x7d'
      · simp [brace]
      · simp [brace, Ne.symm brace]

theorem throughLastBrace_append (inner : List Char) {after : List Char} (absent : '\x7d' ∉ after) :
    throughLastBrace? (inner ++ '\x7d' :: after) = some (inner ++ ['\x7d']) := by
  induction inner with
  | nil =>
    rw [List.nil_append, throughLastBrace?, throughLastBrace_eq_none_iff.mpr absent]
    rfl
  | cons c inner ih =>
    rw [List.cons_append, throughLastBrace?, ih]
    rfl

/-- What is kept ends with the last closing brace. -/
theorem throughLastBrace_eq_some {text kept : List Char}
    (found : throughLastBrace? text = some kept) :
    ∃ inner after, kept = inner ++ ['\x7d'] ∧ text = inner ++ '\x7d' :: after ∧ '\x7d' ∉ after := by
  induction text generalizing kept with
  | nil => cases found
  | cons c text ih =>
    rw [throughLastBrace?] at found
    cases later : throughLastBrace? text with
    | some more =>
      rw [later] at found
      cases found
      obtain ⟨inner, after, rfl, rfl, absent⟩ := ih later
      exact ⟨c :: inner, after, rfl, rfl, absent⟩
    | none =>
      simp only [later] at found
      split at found
      · rename_i brace
        subst brace
        cases found
        exact ⟨[], text, rfl, rfl, throughLastBrace_eq_none_iff.mp later⟩
      · cases found

/-- **The span that is looked for** is the outermost one. -/
theorem braceSpan_eq_some_iff {text span : List Char} :
    braceSpan? text = some span ↔
      ∃ before after, Outermost '\x7b' '\x7d' text before span after := by
  constructor
  · intro found
    obtain ⟨inner, after, rfl, rest, absent⟩ := throughLastBrace_eq_some found
    have before : '\x7b' ∉ text.takeWhile (· ≠ '\x7b') := by
      intro member
      have other := List.mem_takeWhile_imp member
      exact of_decide_eq_true other rfl
    have split : text = text.takeWhile (· ≠ '\x7b') ++ (inner ++ '\x7d' :: after) := by
      rw [← rest, List.takeWhile_append_dropWhile]
    have starts := List.head?_dropWhile_not (· ≠ '\x7b') text
    rw [rest] at starts
    cases inner with
    | nil => cases starts
    | cons c inner =>
      have brace : c = '\x7b' := by simpa using starts
      subst brace
      exact ⟨_, after, by rw [List.append_assoc]; exact split, ⟨inner, rfl⟩, before, absent⟩
  · rintro ⟨before, after, cut⟩
    obtain ⟨inner, rfl⟩ := cut.marked
    have shape : text = before ++ '\x7b' :: (inner ++ '\x7d' :: after) := by
      rw [cut.split]
      simp
    rw [braceSpan?, shape, dropWhile_mark cut.first, ← List.cons_append,
      throughLastBrace_append _ cut.last]
    rfl

/-! ### Bytes -/

/-- The bytes of a text. -/
def bytes (text : String) : List UInt8 := text.toUTF8.data.toList

theorem bytes_eq_flatMap (text : String) :
    bytes text = text.toList.flatMap String.utf8EncodeChar := by
  rw [bytes, String.toUTF8, ← String.utf8Encode_toList, List.utf8Encode,
    List.toList_data_toByteArray]

/-- A character that has an ASCII byte is that byte. -/
theorem utf8EncodeChar_of_ascii {c : Char} {byte : UInt8} (member : byte ∈ String.utf8EncodeChar c)
    (ascii : byte < 0x80) : String.utf8EncodeChar c = [byte] := by
  have beyond : ∀ low, 128 ≤ low → low < 256 → byte ≠ UInt8.ofNat low := by
    rintro low high inside rfl
    rw [UInt8.lt_iff_toNat_lt, UInt8.toNat_ofNat', Nat.mod_eq_of_lt inside] at ascii
    exact absurd ascii (Nat.not_lt.mpr high)
  unfold String.utf8EncodeChar at member ⊢
  generalize c.val.toNat = value at member ⊢
  by_cases single : value ≤ 127
  · simp only [if_pos single, List.mem_singleton] at member ⊢
    rw [member]
  refine absurd member ?_
  have first : ∀ part lead, lead + part ≤ 256 → 128 ≤ lead → 0 < part → ∀ digits,
      byte ≠ UInt8.ofNat (digits % part + lead) := by
    intro part lead small high some digits
    have less := Nat.mod_lt digits some
    exact beyond _ (by omega) (by omega)
  have next : ∀ digits, byte ≠ UInt8.ofNat (digits % 64 + 128) :=
    first 64 128 (by decide) (by decide) (by decide)
  simp only [if_neg single]
  split
  · simp only [List.mem_cons, List.not_mem_nil, or_false, not_or]
    exact ⟨first 32 192 (by decide) (by decide) (by decide) _, next _⟩
  split
  · simp only [List.mem_cons, List.not_mem_nil, or_false, not_or]
    exact ⟨first 16 224 (by decide) (by decide) (by decide) _, next _, next _⟩
  · simp only [List.mem_cons, List.not_mem_nil, or_false, not_or]
    exact ⟨first 8 240 (by decide) (by decide) (by decide) _, next _, next _, next _⟩

/-- **Where what is written item by item can be cut:** every entry belongs to what some item
writes. -/
theorem exists_of_flatMap_eq {α β : Type} {f : α → List β} {items : List α} {before after : List β}
    {x : β} (split : items.flatMap f = before ++ x :: after) :
    ∃ front item back start rest, items = front ++ item :: back ∧ f item = start ++ x :: rest ∧
      before = front.flatMap f ++ start ∧ after = rest ++ back.flatMap f := by
  induction items generalizing before with
  | nil => cases List.append_ne_nil_of_right_ne_nil before (List.cons_ne_nil x after) split.symm
  | cons item items ih =>
    -- Either the entry stands behind all that the first item writes, or it is part of that.
    have later : ∀ more, before = f item ++ more → items.flatMap f = more ++ x :: after →
        ∃ front other back start rest, item :: items = front ++ other :: back ∧
          f other = start ++ x :: rest ∧ before = front.flatMap f ++ start ∧
          after = rest ++ back.flatMap f := by
      rintro more rfl tail
      obtain ⟨front, other, back, start, rest, rfl, own, rfl, rfl⟩ := ih tail
      exact ⟨item :: front, other, back, start, rest, rfl, own,
        (List.append_assoc _ _ _).symm, rfl⟩
    rw [List.flatMap_cons] at split
    rcases List.append_eq_append_iff.mp split with ⟨more, reached, tail⟩ | ⟨more, own, tail⟩
    · exact later more reached tail
    · cases more with
      | nil => exact later [] (by rw [own, List.append_nil, List.append_nil]) tail.symm
      | cons y more =>
        obtain ⟨rfl, rfl⟩ := List.cons.inj tail
        exact ⟨[], item, items, before, more, rfl, own, rfl, rfl⟩

/-- **An ASCII byte is a character:** around it a text can be cut. -/
theorem char_of_ascii {text : List Char} {byte : UInt8} (ascii : byte < 0x80)
    {before after : List UInt8}
    (split : text.flatMap String.utf8EncodeChar = before ++ byte :: after) :
    ∃ front c back, text = front ++ c :: back ∧ String.utf8EncodeChar c = [byte] ∧
      front.flatMap String.utf8EncodeChar = before ∧
      back.flatMap String.utf8EncodeChar = after := by
  obtain ⟨front, c, back, start, rest, rfl, own, rfl, rfl⟩ := exists_of_flatMap_eq split
  have member : byte ∈ String.utf8EncodeChar c := by
    rw [own]
    exact List.mem_append_right _ List.mem_cons_self
  have alone := utf8EncodeChar_of_ascii member ascii
  rw [alone] at own
  rcases List.append_eq_singleton_iff.mp own.symm with ⟨rfl, only⟩ | ⟨_, none⟩
  · obtain ⟨-, rfl⟩ := List.cons.inj only
    exact ⟨front, c, back, rfl, alone, (List.append_nil _).symm, rfl⟩
  · cases none

/-- A character is known by its bytes. -/
theorem utf8EncodeChar_inj {c d : Char} (same : String.utf8EncodeChar c = String.utf8EncodeChar d) :
    c = d := by
  have alike : (String.ofList [c]).toByteArray = (String.ofList [d]).toByteArray := by
    simp only [String.toByteArray_ofList, List.utf8Encode_singleton, same]
  exact List.singleton_inj.mp (String.ofList_inj.mp (String.toByteArray_inj.mp alike))

/-- An ASCII character stands in a text where its byte does. -/
theorem mem_bytes_iff {c : Char} {byte : UInt8} (ascii : byte < 0x80)
    (own : String.utf8EncodeChar c = [byte]) (text : List Char) :
    byte ∈ text.flatMap String.utf8EncodeChar ↔ c ∈ text := by
  constructor
  · intro member
    obtain ⟨before, after, split⟩ := List.append_of_mem member
    obtain ⟨front, d, back, rfl, alone, -, -⟩ := char_of_ascii ascii split
    rw [utf8EncodeChar_inj (own.trans alone.symm)]
    exact List.mem_append_right _ List.mem_cons_self
  · intro member
    exact List.mem_flatMap.mpr ⟨c, member, own ▸ List.mem_singleton_self byte⟩

/-- **Cutting bytes is cutting characters:** the outermost span of the bytes consists of the bytes
of the outermost span of the characters, and so do the parts around it. -/
theorem outermost_bytes_iff {text : String} {before span after : List UInt8} :
    Outermost 0x7b 0x7d (bytes text) before span after ↔ ∃ front middle back : String,
      Outermost '\x7b' '\x7d' text.toList front.toList middle.toList back.toList ∧
        bytes front = before ∧ bytes middle = span ∧ bytes back = after := by
  have opened : String.utf8EncodeChar '\x7b' = [0x7b] := by decide
  have closed : String.utf8EncodeChar '\x7d' = [0x7d] := by decide
  have opening := mem_bytes_iff (by decide) opened
  have closing := mem_bytes_iff (by decide) closed
  simp only [bytes_eq_flatMap]
  constructor
  · rintro ⟨split, ⟨inner, rfl⟩, first, last⟩
    have outer : text.toList.flatMap String.utf8EncodeChar =
        before ++ 0x7b :: (inner ++ 0x7d :: after) := by
      rw [split]
      simp
    obtain ⟨front, c, rest, whole, own, rfl, tail⟩ := char_of_ascii (by decide) outer
    obtain ⟨middle, d, back, rfl, ending, rfl, rfl⟩ := char_of_ascii (by decide) tail
    cases utf8EncodeChar_inj (opened.trans own.symm)
    cases utf8EncodeChar_inj (closed.trans ending.symm)
    refine ⟨String.ofList front, String.ofList ('\x7b' :: (middle ++ ['\x7d'])),
      String.ofList back, ?_⟩
    simp only [String.toList_ofList]
    refine ⟨⟨?_, ⟨middle, rfl⟩, mt (opening front).mpr first, mt (closing back).mpr last⟩,
      trivial, ?_, trivial⟩
    · rw [whole]
      simp
    · rw [List.flatMap_cons, List.flatMap_append, opened, List.flatMap_singleton, closed]
      rfl
  · rintro ⟨front, middle, back, ⟨split, ⟨inner, marked⟩, first, last⟩, rfl, rfl, rfl⟩
    refine ⟨?_, ⟨inner.flatMap String.utf8EncodeChar, ?_⟩, mt (opening _).mp first,
      mt (closing _).mp last⟩
    · rw [split, List.flatMap_append, List.flatMap_append]
    · rw [marked, List.flatMap_cons, List.flatMap_append, opened, List.flatMap_singleton, closed]
      rfl

end LaneChart.Text
