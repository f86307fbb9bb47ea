/-
**One layout for both printed forms.** The two forms of a value differ in where there are blanks
and in nothing else, so what is said of a form with arbitrary blanks holds of both.

* `Spacing`: where a printed form has blanks.
* `spread`: a value with them; `spread_pretty` and `spread_compact` say that the two printed forms
  are instances.
* `joined`: pieces with blanks in front of each and commas between them.
* `spread_list`, `spread_object`: lists and objects are brackets around joined pieces.
-/

import LaneChart.Json.Printer
import LaneChart.Text.Chars

namespace LaneChart.Json

/-! ### Layout -/

/-- **Where a printed form has blanks:** in front of every item and every member, in front of the
closing bracket, and after the colon. -/
structure Spacing where
  line : Nat → List Char
  gap : List Char
  line_blank : ∀ level, ∀ c ∈ line level, Text.isBlank c = true
  gap_blank : ∀ c ∈ gap, Text.isBlank c = true

namespace Spacing

/-- Every item and every member on a line of its own. -/
def pretty : Spacing where
  line := newLine
  gap := [' ']
  line_blank := by
    intro level c member
    rcases List.mem_cons.mp member with rfl | space
    · decide
    · rw [(List.mem_replicate.mp space).2]
      decide
  gap_blank := List.forall_mem_singleton.mpr rfl

/-- No blanks at all. -/
def compact : Spacing where
  line := fun _ => []
  gap := []
  line_blank := nofun
  gap_blank := nofun

end Spacing

mutual

/-- A value with blanks, so many levels in. -/
def spread (spacing : Spacing) (level : Nat) : Json → List Char
  | .list (item :: rest) =>
    '[' :: spacing.line (level + 1) ++ spread spacing (level + 1) item ++
      spreadItems spacing (level + 1) rest ++ spacing.line level ++ [']']
  | .object ((key, value) :: rest) =>
    '\x7b' :: spacing.line (level + 1) ++ printText key ++ ':' :: spacing.gap ++
      spread spacing (level + 1) value ++ spreadMembers spacing (level + 1) rest ++
      spacing.line level ++ ['\x7d']
  | .list [] => printScalar (.list [])
  | .object [] => printScalar (.object [])
  | .null => printScalar .null
  | .bool value => printScalar (.bool value)
  | .number value => printScalar (.number value)
  | .text value => printScalar (.text value)
termination_by structural value => value

/-- The items of a list after the first one. -/
def spreadItems (spacing : Spacing) (level : Nat) : List Json → List Char
  | [] => []
  | item :: rest =>
    ',' :: spacing.line level ++ spread spacing level item ++ spreadItems spacing level rest
termination_by structural items => items

/-- The members of an object after the first one. -/
def spreadMembers (spacing : Spacing) (level : Nat) : List (String × Json) → List Char
  | [] => []
  | (key, value) :: rest =>
    ',' :: spacing.line level ++ printText key ++ ':' :: spacing.gap ++
      spread spacing level value ++ spreadMembers spacing level rest
termination_by structural members => members

end

mutual

/-- The pretty form is spread over lines. -/
theorem spread_pretty (value : Json) (level : Nat) :
    printPretty level value = spread .pretty level value := by
  cases value with
  | list items =>
    cases items with
    | nil => rfl
    | cons item rest =>
      rw [printPretty, spread, spread_pretty item, spreadItems_pretty rest]
      rfl
  | object members =>
    cases members with
    | nil => rfl
    | cons member rest =>
      obtain ⟨key, value⟩ := member
      rw [printPretty, spread, spread_pretty value, spreadMembers_pretty rest]
      simp [Spacing.pretty]
  | null => rfl
  | bool value => rfl
  | number value => rfl
  | text value => rfl
termination_by structural value

theorem spreadItems_pretty (items : List Json) (level : Nat) :
    prettyItems level items = spreadItems .pretty level items := by
  cases items with
  | nil => rfl
  | cons item rest =>
    rw [prettyItems, spreadItems, spread_pretty item, spreadItems_pretty rest]
    rfl
termination_by structural items

theorem spreadMembers_pretty (members : List (String × Json)) (level : Nat) :
    prettyMembers level members = spreadMembers .pretty level members := by
  cases members with
  | nil => rfl
  | cons member rest =>
    obtain ⟨key, value⟩ := member
    rw [prettyMembers, spreadMembers, spread_pretty value, spreadMembers_pretty rest]
    simp [Spacing.pretty]
termination_by structural members

end

mutual

/-- The compact form is spread over nothing. -/
theorem spread_compact (value : Json) (level : Nat) :
    printCompact value = spread .compact level value := by
  cases value with
  | list items =>
    cases items with
    | nil => rfl
    | cons item rest =>
      rw [printCompact, spread, spread_compact item (level + 1),
        spreadItems_compact rest (level + 1)]
      simp [Spacing.compact]
  | object members =>
    cases members with
    | nil => rfl
    | cons member rest =>
      obtain ⟨key, value⟩ := member
      rw [printCompact, spread, spread_compact value (level + 1),
        spreadMembers_compact rest (level + 1)]
      simp [Spacing.compact]
  | null => rfl
  | bool value => rfl
  | number value => rfl
  | text value => rfl
termination_by structural value

theorem spreadItems_compact (items : List Json) (level : Nat) :
    compactItems items = spreadItems .compact level items := by
  cases items with
  | nil => rfl
  | cons item rest =>
    rw [compactItems, spreadItems, spread_compact item level, spreadItems_compact rest level]
    simp [Spacing.compact]
termination_by structural items

theorem spreadMembers_compact (members : List (String × Json)) (level : Nat) :
    compactMembers members = spreadMembers .compact level members := by
  cases members with
  | nil => rfl
  | cons member rest =>
    obtain ⟨key, value⟩ := member
    rw [compactMembers, spreadMembers, spread_compact value level, spreadMembers_compact rest level]
    simp [Spacing.compact]
termination_by structural members

end

/-! ### What is printed one after the other -/

/-- Pieces with blanks in front of each and commas between them. -/
def joined {α : Type} (print : α → List Char) (line : List Char) : Bool → List α → List Char
  | _, [] => []
  | first, x :: xs =>
    (if first then [] else [',']) ++ (line ++ (print x ++ joined print line false xs))

/-- A member of an object. -/
def spreadMember (spacing : Spacing) (level : Nat) (member : String × Json) : List Char :=
  printText member.1 ++ ':' :: (spacing.gap ++ spread spacing level member.2)

theorem spreadItems_eq (spacing : Spacing) (level : Nat) (items : List Json) :
    spreadItems spacing level items =
      joined (spread spacing level) (spacing.line level) false items := by
  induction items with
  | nil => rfl
  | cons item items ih => simp [spreadItems, joined, ih]

theorem spreadMembers_eq (spacing : Spacing) (level : Nat) (members : List (String × Json)) :
    spreadMembers spacing level members =
      joined (spreadMember spacing level) (spacing.line level) false members := by
  induction members with
  | nil => rfl
  | cons member members ih => simp [spreadMembers, joined, spreadMember, ih]

/-- The shape of a list. -/
theorem spread_list (spacing : Spacing) (level : Nat) (items : List Json) :
    ∃ closing, (∀ c ∈ closing, Text.isBlank c = true) ∧
      spread spacing level (.list items) =
        '[' :: (joined (spread spacing (level + 1)) (spacing.line (level + 1)) true items ++
          (closing ++ [']'])) := by
  cases items with
  | nil => exact ⟨[], nofun, rfl⟩
  | cons item items =>
    exact ⟨spacing.line level, spacing.line_blank level, by simp [spread, joined, spreadItems_eq]⟩

/-- The shape of an object. -/
theorem spread_object (spacing : Spacing) (level : Nat) (members : Members) :
    ∃ closing, (∀ c ∈ closing, Text.isBlank c = true) ∧
      spread spacing level (.object members) =
        '\x7b' :: (joined (spreadMember spacing (level + 1)) (spacing.line (level + 1)) true
          members ++ (closing ++ ['\x7d'])) := by
  cases members with
  | nil => exact ⟨[], nofun, rfl⟩
  | cons member members =>
    refine ⟨spacing.line level, spacing.line_blank level, ?_⟩
    simp [spread, joined, spreadMember, spreadMembers_eq]

end LaneChart.Json
