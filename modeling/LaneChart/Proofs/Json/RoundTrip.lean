/-
**Reading back JSON text.** A value that is printed with the members of its objects in any order is
read back with the members ordered by key, as long as no key is there twice. So a value with ordered
members comes back as it was. The numbers in it have to be whole ones of 64 bits, or the zero with a
sign, and the nesting has a limit.

* `insertAll`: members that are put in their places one after the other.
* `insertAll_eq`: they come to stand in the order of their keys.
* `reads_list`, `reads_object`: lists and objects are read when what they hold is.
* `reads_spread`: a value in any printed form, whatever stands around it.
* `parse_pretty`, `parse_compact`: whole texts.

The induction is on the nesting that is left, which is what the reader counts down too.
-/

import LaneChart.Proofs.Json.Sorting
import LaneChart.Proofs.Json.Spaced

namespace LaneChart.Json

/-! ### Members one after the other -/

/-- Puts members, ordered themselves, in their places among others. -/
def insertAll (done members : Members) : Members :=
  members.foldl (fun done member => insert member.1 member.2.sorted done) done

theorem ascending_insertAll {done : Members} (ascending : Ascending done) (members : Members) :
    Ascending (insertAll done members) := by
  induction members generalizing done with
  | nil => exact ascending
  | cons member members ih => exact ih (ascending_insert _ _ ascending)

theorem lookup_insertAll {members : Members} (distinct : Distinct members) (done : Members)
    (key : String) :
    (insertAll done members).lookup key =
      ((members.lookup key).map sorted).or (done.lookup key) := by
  induction members generalizing done with
  | nil => rfl
  | cons member members ih =>
    obtain ⟨other, value⟩ := member
    obtain ⟨fresh, rest⟩ := List.nodup_cons.mp distinct
    show (insertAll (insert other value.sorted done) members).lookup key = _
    rw [ih rest, lookup_insert, lookup_cons_ite]
    by_cases here : key = other
    · rw [if_pos here, if_pos here, here, lookup_eq_none_of_notMem fresh]
      rfl
    · rw [if_neg here, if_neg here]

/-- **Members that are put in their places come to stand in the order of their keys.** -/
theorem insertAll_eq {members : Members} (distinct : Distinct members) :
    insertAll [] members = sortedMembers members := by
  refine (ascending_insertAll List.Pairwise.nil members).ext (ascending_sortedMembers members)
    fun key => ?_
  rw [lookup_insertAll distinct, lookup_sortedMembers]
  exact Option.or_none

theorem passes_memberReader {value : Reader Json} {spacing : Spacing} {level : Nat}
    {members : Members}
    (reads : ∀ member ∈ members, Reads value (spread spacing level member.2) member.2.sorted)
    (done : Members) :
    Passes (memberReader value) done
      (members.map fun member => (member.1, spread spacing level member.2))
      (insertAll done members) := by
  induction members generalizing done with
  | nil => exact .nil
  | cons member members ih =>
    obtain ⟨here, others⟩ := List.forall_mem_cons.mp reads
    have behind : ReadsBehindColon (memberReader value member.1 done)
        (spread spacing level member.2) (insert member.1 member.2.sorted done) :=
      (here.bind fun _ => rfl).behindColon
    exact .cons behind (ih others _)

/-! ### Values -/

theorem reads_scalar (spacing : Spacing) {kind : Members → Prop} {depth : Nat} {value : Json}
    (within : Within kind depth value) (noList : ∀ items, value ≠ .list items)
    (noObject : ∀ members, value ≠ .object members) (level : Nat) :
    Reads (readValue depth) (spread spacing level value) value := by
  intro blanks rest blank ends
  rw [readValue_blanks depth blank]
  rcases startsScalar_spread spacing within level ends with
    scalar | ⟨items, same⟩ | ⟨members, same⟩
  · exact readValue_of_startsScalar scalar depth
  · exact absurd same (noList items)
  · exact absurd same (noObject members)

/-- A list is read when its items are. -/
theorem reads_list {depth : Nat} {items : List (List Char)} {values : List Json}
    (reads : List.Forall₂ (Reads (readValue depth)) items values)
    (starts : ∀ item ∈ items, ∀ rest, StartsItem (item ++ rest)) {inside : List Char}
    (text : ItemsText true items inside) :
    Reads (readValue (depth + 1)) ('[' :: (inside ++ [']'])) (.list values) := by
  refine Reads.of_next fun {rest} _ => ?_
  rw [List.cons_append, List.append_assoc, List.singleton_append, bind_nextVisible _ (by decide)]
  simp only [if_true]
  rw [bind_ok (takeChar_cons '[' _), bind_ok (listOf_text reads starts text rest)]
  rfl

/-- An object is read when its members are. -/
theorem reads_object {depth : Nat} {parts : List (String × List Char)} {members : Members}
    (passes : Passes (memberReader (readValue depth)) [] parts members) {inside : List Char}
    (text : MembersText true (printed parts) inside) :
    Reads (readValue (depth + 1)) ('\x7b' :: (inside ++ ['\x7d'])) (.object members) := by
  have noList : ('\x7b' : Char) ≠ '[' := by decide
  refine Reads.of_next fun {rest} _ => ?_
  rw [List.cons_append, List.append_assoc, List.singleton_append, bind_nextVisible _ (by decide)]
  simp only [noList, if_false, if_true]
  rw [bind_ok (takeChar_cons '\x7b' _)]
  show (membersOf (memberReader (readValue depth)) [] >>= _) _ = _
  rw [bind_ok (membersOf_text passes text rest)]
  rfl

/-- **A printed value is read back with its members in order.** -/
theorem reads_spread (spacing : Spacing) (depth : Nat) {value : Json}
    (within : Within Distinct depth value) (level : Nat) :
    Reads (readValue depth) (spread spacing level value) value.sorted := by
  induction depth generalizing value level with
  | zero =>
    cases value with
    | list items => exact within.elim
    | object members => exact within.elim
    | _ => exact reads_scalar spacing within nofun nofun level
  | succ depth ih =>
    cases value with
    | list items =>
      obtain ⟨inside, shape, text⟩ := spread_itemsText spacing level items
      have reads : List.Forall₂ (Reads (readValue depth))
          (items.map (spread spacing (level + 1))) (sortedItems items) := by
        rw [sortedItems_eq_map, List.forall₂_map_left_iff, List.forall₂_map_right_iff,
          List.forall₂_same]
        exact fun item member => ih (within item member) (level + 1)
      have starts : ∀ item ∈ items.map (spread spacing (level + 1)),
          ∀ rest, StartsItem (item ++ rest) := by
        simp only [List.forall_mem_map]
        exact fun item member =>
          startsItem_spread spacing (within item member) (level + 1)
      rw [shape]
      exact reads_list reads starts text
    | object members =>
      obtain ⟨inside, shape, text⟩ := spread_membersText spacing level members
      have passes := passes_memberReader
        (fun member known => ih (within.2 member known) (level + 1)) []
      rw [insertAll_eq within.1] at passes
      rw [shape]
      exact reads_object passes text
    | _ => exact reads_scalar spacing within nofun nofun level

/-! ### Whole texts -/

theorem parse_printed {value : Json} (within : Within Ascending nestingLimit value) :
    parse value.pretty = .ok value ∧ parse value.compact = .ok value := by
  have distinct : Within Distinct nestingLimit value := within.mono fun _ => Ascending.distinct
  have read := readText_printed fun spacing level =>
    reads_spread spacing nestingLimit distinct level
  rwa [sorted_of_within within] at read

/-- **The pretty form is read back.** -/
theorem parse_pretty {value : Json} (within : Within Ascending nestingLimit value) :
    parse value.pretty = .ok value :=
  (parse_printed within).1

/-- **The compact form is read back.** -/
theorem parse_compact {value : Json} (within : Within Ascending nestingLimit value) :
    parse value.compact = .ok value :=
  (parse_printed within).2

end LaneChart.Json
