/-
**A value is no larger than its text.** No list in a value that was read has more items than the
text has characters. The reason is in how items are read: one step for every item, and as many steps
as there are characters.

* `Bounded`: a reader that never leaves more text than some number of characters.
* `Bounded.bind`: readers one after the other. `LooksAhead.bounded`: the pieces.
* `bounded_readValue`: what is read has a property, if lists and objects have it whenever what they
  hold has it.
* `Roomy`, `roomy_of_readChars`: values without long lists, and that what is read is one of them.
-/

import LaneChart.Proofs.Json.Sorting
import LaneChart.Proofs.Json.Surroundings

namespace LaneChart.Json

/-- **A reader that stays within a length:** of a text with at most so many characters it leaves no
more, and what it reads has a property. -/
def Bounded {α : Type} (most : Nat) (good : α → Prop) (reader : Reader α) : Prop :=
  ∀ text, text.length ≤ most → ∀ result rest, reader text = .ok (result, rest) →
    rest.length ≤ most ∧ good result

/-- Nothing is asked of a result. -/
abbrev Anything {α : Type} (_ : α) : Prop := True

variable {α β : Type} {most : Nat}

namespace Bounded

theorem pure {good : α → Prop} {result : α} (holds : good result) :
    Bounded most good (Pure.pure result) := by
  rintro text short _ _ ⟨⟩
  exact ⟨short, holds⟩

/-- The next reader may rely on what the first one reads. -/
theorem bind {good : α → Prop} {better : β → Prop} {first : Reader α} {next : α → Reader β}
    (done : Bounded most good first)
    (goes : ∀ result, good result → Bounded most better (next result)) :
    Bounded most better (first >>= next) := by
  intro text short result rest read
  have split : (first text >>= fun (result, rest) => next result rest) = .ok (result, rest) := read
  cases ran : first text with
  | error fault =>
    rw [ran] at split
    cases split
  | ok between =>
    obtain ⟨middle, left⟩ := between
    rw [ran] at split
    obtain ⟨shorter, holds⟩ := done text short middle left ran
    exact goes middle holds left shorter result rest split

theorem failHere {good : α → Prop} (cause : Cause) : Bounded most good (failHere cause) := nofun

theorem failNext {good : α → Prop} (cause : Cause) : Bounded most good (failNext cause) := nofun

theorem ite {good : α → Prop} {condition : Prop} [Decidable condition] {first second : Reader α}
    (yes : condition → Bounded most good first) (no : ¬condition → Bounded most good second) :
    Bounded most good (if condition then first else second) := by
  split
  · exact yes ‹_›
  · exact no ‹_›

end Bounded

/-- A reader that looks one character ahead takes what it has read from the front. -/
theorem LooksAhead.bounded {reader : Reader α} (ahead : LooksAhead reader) :
    Bounded most Anything reader :=
  fun _ short _ _ read => ⟨(ahead.length_le read).trans short, trivial⟩

/-! ### Lists and objects -/

/-- Every item takes a step. -/
theorem bounded_itemsOf {good : α → Prop} {item : Reader α} (each : Bounded most good item)
    (steps : Nat) (first : Bool) :
    Bounded most (fun items => items.length < steps ∧ ∀ item ∈ items, good item)
      (itemsOf item steps first) := by
  induction steps generalizing first with
  | zero => exact .failHere _
  | succ steps ih =>
    refine (lookahead_nextItem first).bounded.bind fun follows _ => .ite (fun _ => ?_) fun _ => ?_
    · refine each.bind fun head holds => (ih false).bind fun tail known => .pure ?_
      exact ⟨Nat.succ_lt_succ known.1, List.forall_mem_cons.mpr ⟨holds, known.2⟩⟩
    · have none : ([] : List α).length < steps + 1 ∧ ∀ item ∈ ([] : List α), good item :=
        ⟨Nat.succ_pos _, nofun⟩
      exact lookahead_takeChar.bounded.bind fun _ _ => .pure none

/-- **A list has no more items than its text has characters.** -/
theorem bounded_listOf {good : α → Prop} {item : Reader α} (each : Bounded most good item) :
    Bounded most (fun items => items.length ≤ most ∧ ∀ item ∈ items, good item) (listOf item) := by
  intro text short items rest read
  obtain ⟨shorter, few, known⟩ := bounded_itemsOf each _ true text short items rest read
  exact ⟨shorter, Nat.le_trans (Nat.le_of_lt_succ few) short, known⟩

theorem bounded_membersFrom {good : α → Prop} {member : String → α → Reader α}
    (each : ∀ key state, good state → Bounded most good (member key state)) (steps : Nat)
    (first : Bool) {state : α} (start : good state) :
    Bounded most good (membersFrom member steps first state) := by
  induction steps generalizing first state with
  | zero => exact .failHere _
  | succ steps ih =>
    refine (lookahead_nextKey first).bounded.bind fun key _ => ?_
    cases key with
    | none => exact .pure start
    | some key => exact (each key state start).bind fun state holds => ih false holds

/-- **A state that members are read into keeps what every member keeps.** -/
theorem bounded_membersOf {good : α → Prop} {member : String → α → Reader α}
    (each : ∀ key state, good state → Bounded most good (member key state)) {start : α}
    (holds : good start) : Bounded most good (membersOf member start) :=
  fun text short state rest read =>
    bounded_membersFrom each _ true holds text short state rest read

/-! ### Values -/

/-- **No list in the value has more than so many items.** -/
inductive Roomy (most : Nat) : Json → Prop
  | null : Roomy most .null
  | bool (value : Bool) : Roomy most (.bool value)
  | number (value : Number) : Roomy most (.number value)
  | text (value : String) : Roomy most (.text value)
  | list {items : List Json} : items.length ≤ most → (∀ item ∈ items, Roomy most item) →
      Roomy most (.list items)
  | object {members : Members} : (∀ member ∈ members, Roomy most member.2) →
      Roomy most (.object members)

theorem Roomy.get {value member : Json} {key : String} (roomy : Roomy most value)
    (found : value.get? key = some member) : Roomy most member := by
  cases roomy with
  | object known => exact known (key, member) (mem_of_lookup found)
  | _ => cases found

/-- Values that hold no others have a property. -/
def OfScalars (good : Json → Prop) : Prop :=
  ∀ value, (∀ items, value ≠ .list items) → (∀ members, value ≠ .object members) → good value

theorem bounded_scalarAt {good : Json → Prop} (scalars : OfScalars good) (c : Char) :
    Bounded most good ((scalarAt? c).getD (failNext .wantedValue)) := by
  have word {letters : List Char} (value : Json) (holds : good value) :
      Bounded most good (do takeChar; word letters; return value : Reader Json) :=
    lookahead_takeChar.bounded.bind fun _ _ =>
      (lookahead_word letters).bounded.bind fun _ _ => .pure holds
  unfold scalarAt?
  split
  · exact word .null (scalars _ nofun nofun)
  split
  · exact word (.bool true) (scalars _ nofun nofun)
  split
  · exact word (.bool false) (scalars _ nofun nofun)
  split
  · exact lookahead_readNumber.bounded.bind fun value _ => .pure (scalars _ nofun nofun)
  split
  · exact lookahead_takeChar.bounded.bind fun _ _ => lookahead_readQuoted.bounded.bind
      fun value _ => .pure (scalars _ nofun nofun)
  · exact .failNext _

/-- **What is read has a property** that lists and objects have when what they hold has it. A list
is no longer than the text, and the members of an object are ordered. -/
theorem bounded_readValue {good : Nat → Json → Prop} (scalars : ∀ depth, OfScalars (good depth))
    (lists : ∀ depth items, items.length ≤ most → (∀ item ∈ items, good depth item) →
      good (depth + 1) (.list items))
    (objects : ∀ depth members, Ascending members → (∀ member ∈ members, good depth member.2) →
      good (depth + 1) (.object members)) (depth : Nat) :
    Bounded most (good depth) (readValue depth) := by
  induction depth with
  | zero =>
    refine lookahead_nextVisible.bounded.bind fun next _ => ?_
    cases next with
    | none => exact .failHere _
    | some c => exact .ite (fun _ => .failNext _) fun _ => bounded_scalarAt (scalars 0) c
  | succ depth ih =>
    refine lookahead_nextVisible.bounded.bind fun next _ => ?_
    cases next with
    | none => exact .failHere _
    | some c =>
      refine .ite (fun _ => ?_) fun _ => .ite (fun _ => ?_) fun _ =>
        bounded_scalarAt (scalars (depth + 1)) c
      · refine lookahead_takeChar.bounded.bind fun _ _ =>
          (bounded_listOf ih).bind fun items known => ?_
        exact .pure (lists depth items known.1 known.2)
      · have each : ∀ key (members : Members),
            (Ascending members ∧ ∀ member ∈ members, good depth member.2) →
              Bounded most
                (fun members : Members =>
                  Ascending members ∧ ∀ member ∈ members, good depth member.2)
                (memberReader (readValue depth) key members) := by
          intro key members known
          refine lookahead_takeColon.bounded.bind fun _ _ => ih.bind fun value holds => .pure ?_
          refine ⟨ascending_insert key value known.1, fun member put => ?_⟩
          rcases mem_insert put with rfl | old
          · exact holds
          · exact known.2 member old
        have none : Ascending ([] : Members) ∧ ∀ member ∈ ([] : Members), good depth member.2 :=
          ⟨List.Pairwise.nil, List.forall_mem_nil _⟩
        exact lookahead_takeChar.bounded.bind fun _ _ => (bounded_membersOf each none).bind
          fun members known => lookahead_takeChar.bounded.bind fun _ _ =>
            .pure (objects depth members known.1 known.2)

/-- A whole text is read like its front. -/
theorem good_of_readChars {good : Json → Prop} {depth : Nat}
    (bounded : Bounded most good (readValue depth)) {text : List Char} {value : Json}
    (short : text.length ≤ most) (read : readChars (readValue depth) text = .ok value) :
    good value := by
  obtain ⟨rest, front, _⟩ := readChars_eq_ok_iff.mp read
  exact (bounded text short value rest front).2

theorem roomy_of_scalar : OfScalars (Roomy most) := by
  intro value noList noObject
  cases value with
  | null => exact .null
  | bool value => exact .bool value
  | number value => exact .number value
  | text value => exact .text value
  | list items => exact absurd rfl (noList items)
  | object members => exact absurd rfl (noObject members)

/-- **A value that is read has no list with more items than the text has characters.** -/
theorem roomy_of_readChars {depth : Nat} {text : List Char} {value : Json}
    (short : text.length ≤ most) (read : readChars (readValue depth) text = .ok value) :
    Roomy most value := by
  refine good_of_readChars (bounded_readValue (fun _ => roomy_of_scalar)
    (fun _ items few known => ?_) (fun _ members _ known => ?_) depth) short read
  · exact .list few known
  · exact .object known

end LaneChart.Json
