/-
**The pieces of JSON text.** Values that hold no others are read back from their printed form, and so
are the marks between the items of a list and the members of an object.

* `Within`: what may stand in a value of bounded nesting.
* `Ascending`: members ordered by key with no key twice.
* `nextItem_item`, `nextKey_member`: what stands between items and members.
* `readValue_of_startsScalar`: a value that holds no other.
* `startsScalar_spread`, `startsItem_spread`: what the printed form of a value starts with.
-/

import LaneChart.Proofs.Json.Layout
import LaneChart.Proofs.Json.Scalars

namespace LaneChart.Json

/-! ### Passing over blanks -/

theorem bind_nextVisible_blanks {α : Type} (next : Option Char → Reader α) {blanks : List Char}
    (blank : ∀ c ∈ blanks, Text.isBlank c = true) (text : List Char) :
    (nextVisible >>= next) (blanks ++ text) = (nextVisible >>= next) text := by
  show next ((blanks ++ text).dropWhile Text.isBlank).head? _ = _
  rw [List.dropWhile_append_of_pos blank]
  rfl

theorem bind_nextVisible {α : Type} (next : Option Char → Reader α) {c : Char}
    (visible : Text.isBlank c = false) (rest : List Char) :
    (nextVisible >>= next) (c :: rest) = next (some c) (c :: rest) := by
  show next ((c :: rest).dropWhile Text.isBlank).head? _ = _
  rw [List.dropWhile_cons_of_neg (by rw [visible]; exact Bool.false_ne_true)]
  rfl

theorem takeChar_cons (c : Char) (rest : List Char) : takeChar (c :: rest) = .ok ((), rest) := rfl

/-- Blanks, a comma and a closing bracket end a number. -/
theorem ends_of_blanks {blanks : List Char} (blank : ∀ c ∈ blanks, Text.isBlank c = true) {c : Char}
    (mark : c ∈ [',', ']', '\x7d']) (rest : List Char) : Ends (blanks ++ c :: rest) := by
  have marks : ∀ c ∈ [',', ']', '\x7d', ' ', '\n', '\t', '\r'],
      c.isDigit = false ∧ c ≠ '.' ∧ c ≠ 'e' ∧ c ≠ 'E' := by
    intro c member
    simp only [List.mem_cons, List.not_mem_nil, or_false] at member
    rcases member with rfl | rfl | rfl | rfl | rfl | rfl | rfl <;> decide
  cases blanks with
  | nil =>
    intro d first
    cases first
    exact marks c (List.mem_append_left [' ', '\n', '\t', '\r'] mark)
  | cons d blanks =>
    intro e first
    cases first
    have isBlank := blank d List.mem_cons_self
    simp only [Text.isBlank, Bool.or_eq_true, decide_eq_true_eq] at isBlank
    refine marks d ?_
    rcases isBlank with ((rfl | rfl) | rfl) | rfl <;> decide

/-! ### Lists -/

/-- What an item can start with: it is seen, and it ends no list. -/
def StartsItem (text : List Char) : Prop :=
  ∃ c rest, text = c :: rest ∧ Text.isBlank c = false ∧ c ≠ ']'

theorem nextItem_close {closing : List Char} (blank : ∀ c ∈ closing, Text.isBlank c = true)
    (first : Bool) (rest : List Char) :
    nextItem first (closing ++ ']' :: rest) = .ok (false, ']' :: rest) := by
  rw [nextItem, bind_nextVisible_blanks _ blank, bind_nextVisible _ (by decide)]
  rfl

theorem nextItem_item {line : List Char} (blank : ∀ c ∈ line, Text.isBlank c = true) (first : Bool)
    {text : List Char} (starts : StartsItem text) :
    nextItem first ((if first then [] else [',']) ++ (line ++ text)) = .ok (true, text) := by
  obtain ⟨c, rest, rfl, visible, noEnd⟩ := starts
  cases first with
  | true =>
    rw [if_pos rfl, List.nil_append, nextItem, bind_nextVisible_blanks _ blank,
      bind_nextVisible _ visible]
    simp only [if_neg noEnd, if_true]
    rfl
  | false =>
    rw [if_neg Bool.false_ne_true, List.singleton_append, nextItem, bind_nextVisible _ (by decide)]
    have comma : (',' : Char) ≠ ']' := by decide
    simp only [if_neg comma, Bool.false_eq_true, if_false, if_true]
    rw [bind_ok (takeChar_cons ',' _), bind_nextVisible_blanks _ blank, bind_nextVisible _ visible]
    simp only [if_neg noEnd]
    rfl

/-! ### Objects -/

/-- Members ordered by key, with no key twice. -/
def Ascending (members : Members) : Prop := members.Pairwise fun first second => first.1 < second.1

theorem nextKey_close {closing : List Char} (blank : ∀ c ∈ closing, Text.isBlank c = true)
    (first : Bool) (rest : List Char) :
    nextKey first (closing ++ '\x7d' :: rest) = .ok (none, '\x7d' :: rest) := by
  rw [nextKey, bind_nextVisible_blanks _ blank, bind_nextVisible _ (by decide)]
  rfl

theorem keyAt_print (key : String) (rest : List Char) :
    keyAt '"' (printText key ++ rest) = .ok (some key, rest) := by
  have shape : printText key ++ rest = '"' :: (key.toList.flatMap escapedChar ++ '"' :: rest) := by
    simp [printText]
  rw [keyAt, if_pos rfl, shape, bind_ok (takeChar_cons '"' _), bind_ok (readQuoted_print key rest)]
  rfl

theorem nextKey_member {line : List Char} (blank : ∀ c ∈ line, Text.isBlank c = true) (first : Bool)
    (key : String) (rest : List Char) :
    nextKey first ((if first then [] else [',']) ++ (line ++ (printText key ++ rest))) =
      .ok (some key, rest) := by
  have quote : ('"' : Char) ≠ '\x7d' := by decide
  have shape : ∃ more, printText key ++ rest = '"' :: more := ⟨_, rfl⟩
  have read := keyAt_print key rest
  obtain ⟨more, shape⟩ := shape
  rw [shape] at read ⊢
  cases first with
  | true =>
    rw [if_pos rfl, List.nil_append, nextKey, bind_nextVisible_blanks _ blank,
      bind_nextVisible _ (by decide)]
    simp only [if_neg quote, if_true]
    exact read
  | false =>
    rw [if_neg Bool.false_ne_true, List.singleton_append, nextKey, bind_nextVisible _ (by decide)]
    have comma : (',' : Char) ≠ '\x7d' := by decide
    simp only [if_neg comma, Bool.false_eq_true, if_false, if_true]
    rw [bind_ok (takeChar_cons ',' _), bind_nextVisible_blanks _ blank,
      bind_nextVisible _ (by decide)]
    simp only [if_neg quote]
    exact read

/-- The reader of a member inside an object. -/
def memberReader (value : Reader Json) (key : String) (members : Members) : Reader Members := do
  takeColon
  return insert key (← value) members

/-! ### Values -/

/-- **What may stand in a value** whose lists and objects are nested at most so deep: numbers that
can be read back, and objects with members of a kind. -/
def Within (kind : Members → Prop) : Nat → Json → Prop
  | _, .null | _, .bool _ | _, .text _ => True
  | _, .number value => value.Fits
  | 0, .list _ | 0, .object _ => False
  | depth + 1, .list items => ∀ item ∈ items, Within kind depth item
  | depth + 1, .object members => kind members ∧ ∀ member ∈ members, Within kind depth member.2

theorem within_text {kind : Members → Prop} (depth : Nat) (text : String) :
    Within kind depth (.text text) := by
  cases depth <;> trivial

theorem within_ofText {kind : Members → Prop} (depth : Nat) (text : Option String) :
    Within kind depth (.ofText? text) := by
  cases text with
  | none => cases depth <;> trivial
  | some text => exact within_text depth text

theorem within_map {kind : Members → Prop} {α : Type} {depth : Nat} {toJson : α → Json}
    (each : ∀ x, Within kind depth (toJson x)) (xs : List α) :
    Within kind (depth + 1) (.list (xs.map toJson)) := by
  intro item member
  obtain ⟨x, _, rfl⟩ := List.mem_map.mp member
  exact each x

/-- A text starts with a value that holds no other, and the rest of the text follows. -/
def StartsScalar (text : List Char) (value : Json) (rest : List Char) : Prop :=
  ∃ c more reader, text = c :: more ∧ Text.isBlank c = false ∧ c ∉ ['[', ']', '\x7b', '\x7d'] ∧
    scalarAt? c = some reader ∧ reader text = .ok (value, rest)

/-- What a number can start with. -/
def StartsNumber (c : Char) : Prop := c = '-' ∨ c.isDigit = true

namespace StartsNumber

theorem ne {c d : Char} (start : StartsNumber c) (notMinus : d ≠ '-') (notDigit : d.isDigit = false) :
    c ≠ d := by
  rintro rfl
  rcases start with minus | digit
  · exact notMinus minus
  · rw [notDigit] at digit
    cases digit

theorem visible {c : Char} (start : StartsNumber c) : Text.isBlank c = false := by
  have space : c ≠ ' ' := start.ne (by decide) (by decide)
  have line : c ≠ '\n' := start.ne (by decide) (by decide)
  have tab : c ≠ '\t' := start.ne (by decide) (by decide)
  have carriage : c ≠ '\r' := start.ne (by decide) (by decide)
  simp [Text.isBlank, space, line, tab, carriage]

theorem not_mem_brackets {c : Char} (start : StartsNumber c) :
    c ∉ ['[', ']', '\x7b', '\x7d'] := by
  intro bracket
  have none : (['[', ']', '\x7b', '\x7d'].all fun d => d ≠ '-' && !d.isDigit) = true := by decide
  have apart := List.all_eq_true.mp none c bracket
  simp only [Bool.and_eq_true, decide_eq_true_eq, Bool.not_eq_true'] at apart
  exact start.ne apart.1 apart.2 rfl

theorem scalarAt {c : Char} (start : StartsNumber c) :
    scalarAt? c = some (do return .number (← readNumber)) := by
  have null : c ≠ 'n' := start.ne (by decide) (by decide)
  have yes : c ≠ 't' := start.ne (by decide) (by decide)
  have no : c ≠ 'f' := start.ne (by decide) (by decide)
  rw [scalarAt?, if_neg null, if_neg yes, if_neg no, if_pos]
  rcases start with minus | digit
  · simp [minus]
  · simp [digit]

end StartsNumber

theorem startsScalar_number {value : Number} (fits : value.Fits) {rest : List Char}
    (ends : Ends rest) : StartsScalar (printNumber value ++ rest) (.number value) rest := by
  obtain ⟨c, more, shape, start⟩ :
      ∃ c more, printNumber value ++ rest = c :: more ∧ StartsNumber c := by
    cases value with
    | real value =>
      obtain rfl : value = -0.0 := fits
      exact ⟨'-', _, by rw [printNumber_signedZero]; rfl, .inl rfl⟩
    | whole value =>
      rw [printNumber, printInt]
      split
      · exact ⟨'-', _, rfl, .inl rfl⟩
      · obtain ⟨c, more, shape, digit⟩ := Numeral.exists_cons_toDigits value.natAbs
        exact ⟨c, more ++ rest, by rw [shape]; rfl, .inr digit⟩
  refine ⟨c, more, _, shape, start.visible, start.not_mem_brackets, start.scalarAt, ?_⟩
  rw [bind_ok (readNumber_print fits ends)]
  rfl

theorem startsScalar_text (text : String) (rest : List Char) :
    StartsScalar (printText text ++ rest) (.text text) rest := by
  have shape : printText text ++ rest =
      '"' :: (text.toList.flatMap escapedChar ++ '"' :: rest) := by
    simp [printText]
  refine ⟨'"', _, _, shape, by decide, by decide, rfl, ?_⟩
  rw [shape, bind_ok (takeChar_cons '"' _), bind_ok (readQuoted_print text rest)]
  rfl

/-- **A value that holds no other is read back.** -/
theorem readValue_of_startsScalar {text rest : List Char} {value : Json}
    (starts : StartsScalar text value rest) (depth : Nat) :
    readValue depth text = .ok (value, rest) := by
  obtain ⟨c, more, reader, rfl, visible, noBracket, found, read⟩ := starts
  simp only [List.mem_cons, List.not_mem_nil, or_false, not_or] at noBracket
  obtain ⟨noList, _, noObject, _⟩ := noBracket
  cases depth with
  | zero =>
    rw [readValue, bind_nextVisible _ visible]
    simp only [noList, noObject, decide_false, Bool.or_false, Bool.false_eq_true, if_false, found]
    exact read
  | succ depth =>
    rw [readValue, bind_nextVisible _ visible]
    simp only [noList, noObject, if_false, found]
    exact read

/-- Blanks in front of a value are passed over. -/
theorem readValue_blanks (depth : Nat) {blanks : List Char}
    (blank : ∀ c ∈ blanks, Text.isBlank c = true) (text : List Char) :
    readValue depth (blanks ++ text) = readValue depth text := by
  cases depth <;> exact bind_nextVisible_blanks _ blank text

/-- A value that fits holds no other, or is a list or an object. -/
theorem startsScalar_spread {kind : Members → Prop} (spacing : Spacing) {depth : Nat} {value : Json}
    (within : Within kind depth value) (level : Nat) {rest : List Char} (ends : Ends rest) :
    StartsScalar (spread spacing level value ++ rest) value rest ∨
      (∃ items, value = .list items) ∨ ∃ members, value = .object members := by
  cases value with
  | null => exact .inl ⟨'n', _, _, rfl, by decide, by decide, rfl, rfl⟩
  | bool value =>
    cases value <;> exact .inl ⟨_, _, _, rfl, by decide, by decide, rfl, rfl⟩
  | number value =>
    have fits : value.Fits := by cases depth <;> exact within
    exact .inl (startsScalar_number fits ends)
  | text value => exact .inl (startsScalar_text value rest)
  | list items => exact .inr (.inl ⟨items, rfl⟩)
  | object members => exact .inr (.inr ⟨members, rfl⟩)

/-- A value starts with something that is seen and is no closing bracket. -/
theorem startsItem_spread {kind : Members → Prop} (spacing : Spacing) {depth : Nat} {value : Json}
    (within : Within kind depth value) (level : Nat) (rest : List Char) :
    StartsItem (spread spacing level value ++ rest) := by
  have ends : Ends [] := nofun
  rcases startsScalar_spread spacing within level ends with scalar | ⟨items, rfl⟩ | ⟨members, rfl⟩
  · obtain ⟨c, more, _, shape, visible, noBracket, _⟩ := scalar
    rw [List.append_nil] at shape
    have noEnd : c ≠ ']' := by
      rintro rfl
      exact noBracket (by decide)
    exact ⟨c, more ++ rest, by rw [shape]; rfl, visible, noEnd⟩
  · obtain ⟨closing, _, shape⟩ := spread_list spacing level items
    exact ⟨'[', _, by rw [shape]; rfl, by decide, by decide⟩
  · obtain ⟨closing, _, shape⟩ := spread_object spacing level members
    exact ⟨'\x7b', _, by rw [shape]; rfl, by decide, by decide⟩

end LaneChart.Json
