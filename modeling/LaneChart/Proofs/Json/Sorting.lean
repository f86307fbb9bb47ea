/-
**Members in the order of their keys.** Sorting the members of every object puts them in ascending
order, and changes neither what is found under a key nor anything else that can be read from a
value.

* `lookup_insert`, `ascending_insert`: a member among ordered members.
* `Ascending.ext`: ordered members are known by what is found under every key.
* `get_sorted`: what is found under a key.
* `within_sorted`: a sorted value can be read back when it is not nested too deep.
* `sorted_of_within`: what is in order stays as it is.
-/

import LaneChart.Proofs.Json.Pieces
import LaneChart.Proofs.Lookup

namespace LaneChart.Json

/-! ### One member -/

/-- The member that was put there is found, and any other as before. -/
theorem lookup_insert (key wanted : String) (value : Json) (members : Members) :
    (insert key value members).lookup wanted =
      if wanted = key then some value else members.lookup wanted := by
  induction members with
  | nil => exact lookup_cons_ite key wanted value []
  | cons member members ih =>
    obtain ⟨other, old⟩ := member
    unfold insert
    split
    · exact lookup_cons_ite key wanted value _
    split
    · rename_i same
      subst same
      rw [lookup_cons_ite, lookup_cons_ite]
      by_cases here : wanted = key
      · rw [if_pos here, if_pos here]
      · rw [if_neg here, if_neg here, if_neg here]
    · rename_i different
      rw [lookup_cons_ite, ih, lookup_cons_ite]
      by_cases here : wanted = key
      · have elsewhere : wanted ≠ other := fun same => different (here.symm.trans same)
        rw [if_neg elsewhere, if_pos here, if_pos here]
      · rw [if_neg here, if_neg here]

theorem mem_insert {key : String} {value : Json} {members : Members} {member : String × Json}
    (known : member ∈ insert key value members) : member = (key, value) ∨ member ∈ members := by
  induction members with
  | nil => exact .inl (List.mem_singleton.mp known)
  | cons first members ih =>
    obtain ⟨other, old⟩ := first
    unfold insert at known
    split at known
    · exact (List.mem_cons.mp known).imp_right id
    split at known
    · exact (List.mem_cons.mp known).imp_right (List.mem_cons_of_mem _)
    · rcases List.mem_cons.mp known with rfl | later
      · exact .inr List.mem_cons_self
      · exact (ih later).imp_right (List.mem_cons_of_mem _)

/-- A member is put in its place. -/
theorem ascending_insert (key : String) (value : Json) {members : Members}
    (ascending : Ascending members) : Ascending (insert key value members) := by
  induction members with
  | nil => exact List.pairwise_singleton _ _
  | cons member members ih =>
    obtain ⟨other, old⟩ := member
    obtain ⟨first, rest⟩ := List.pairwise_cons.mp ascending
    unfold insert
    split
    · rename_i before
      refine List.pairwise_cons.mpr ⟨fun member known => ?_, ascending⟩
      rcases List.mem_cons.mp known with rfl | later
      · exact before
      · exact String.lt_trans before (first member later)
    split
    · rename_i same
      subst same
      exact List.pairwise_cons.mpr ⟨first, rest⟩
    · rename_i notBefore different
      refine List.pairwise_cons.mpr ⟨fun member known => ?_, ih rest⟩
      rcases mem_insert known with rfl | later
      · exact lt_of_le_of_ne' (String.not_lt.mp notBefore) different
      · exact first member later

/-- Nothing is found under a key that is less than all others. -/
theorem lookup_of_lt {key : String} {members : Members}
    (later : ∀ member ∈ members, key < member.1) : members.lookup key = none :=
  List.lookup_eq_none_iff.mpr fun member known =>
    bne_iff_ne.mpr (String.ne_of_lt (later member known))

/-- Nothing is found under a key that is less than the first one. -/
theorem not_lt_of_lookup {first key : String} {value found : Json} {members : Members}
    (ascending : Ascending ((first, value) :: members))
    (there : ((first, value) :: members).lookup key = some found) : ¬key < first := by
  intro before
  have later : ∀ member ∈ (first, value) :: members, key < member.1 :=
    List.forall_mem_cons.mpr ⟨before, fun member known =>
      String.lt_trans before ((List.pairwise_cons.mp ascending).1 member known)⟩
  rw [lookup_of_lt later] at there
  cases there

/-- **Ordered members are known by what is found under every key.** -/
theorem Ascending.ext {first second : Members} (ascending : Ascending first)
    (alsoAscending : Ascending second) (same : ∀ key, first.lookup key = second.lookup key) :
    first = second := by
  induction first generalizing second with
  | nil =>
    cases second with
    | nil => rfl
    | cons member second =>
      have found := (same member.1).trans List.lookup_cons_self
      cases found
  | cons member first ih =>
    obtain ⟨key, value⟩ := member
    cases second with
    | nil =>
      have found := (same key).symm.trans List.lookup_cons_self
      cases found
    | cons other second =>
      obtain ⟨otherKey, otherValue⟩ := other
      have notAfter := not_lt_of_lookup ascending ((same otherKey).trans List.lookup_cons_self)
      have notBefore := not_lt_of_lookup alsoAscending ((same key).symm.trans List.lookup_cons_self)
      obtain rfl : key = otherKey :=
        String.le_antisymm (String.not_lt.mp notAfter) (String.not_lt.mp notBefore)
      obtain rfl : value = otherValue :=
        Option.some.inj (List.lookup_cons_self.symm.trans ((same key).trans List.lookup_cons_self))
      obtain ⟨least, rest⟩ := List.pairwise_cons.mp ascending
      obtain ⟨alsoLeast, alsoRest⟩ := List.pairwise_cons.mp alsoAscending
      have tails : ∀ wanted, first.lookup wanted = second.lookup wanted := by
        intro wanted
        by_cases head : wanted = key
        · rw [head, lookup_of_lt least, lookup_of_lt alsoLeast]
        · have found := same wanted
          rwa [lookup_cons_ite, lookup_cons_ite, if_neg head, if_neg head] at found
      rw [ih rest alsoRest tails]

/-! ### Whole values -/

theorem sortedItems_eq_map (items : List Json) : sortedItems items = items.map sorted := by
  induction items with
  | nil => rfl
  | cons item items ih => rw [sortedItems, ih, List.map_cons]

theorem ascending_sortedMembers (members : Members) : Ascending (sortedMembers members) := by
  induction members with
  | nil => exact List.Pairwise.nil
  | cons member members ih => exact ascending_insert _ _ ih

theorem mem_sortedMembers {members : Members} {member : String × Json}
    (known : member ∈ sortedMembers members) : ∃ value, (member.1, value) ∈ members ∧
      member.2 = value.sorted := by
  induction members with
  | nil => cases known
  | cons first members ih =>
    obtain ⟨key, value⟩ := first
    rcases mem_insert known with rfl | later
    · exact ⟨value, List.mem_cons_self, rfl⟩
    · obtain ⟨value, found, same⟩ := ih later
      exact ⟨value, List.mem_cons_of_mem _ found, same⟩

theorem lookup_sortedMembers (key : String) (members : Members) :
    (sortedMembers members).lookup key = (members.lookup key).map sorted := by
  induction members with
  | nil => rfl
  | cons member members ih =>
    obtain ⟨other, value⟩ := member
    rw [sortedMembers, lookup_insert, ih, lookup_cons_ite]
    split <;> rfl

/-- **Sorting does not change what is found under a key,** except that it is sorted as well. -/
theorem get_sorted (value : Json) (key : String) :
    value.sorted.get? key = (value.get? key).map sorted := by
  cases value with
  | object members => exact lookup_sortedMembers key members
  | _ => rfl

theorem text_sorted (value : Json) : value.sorted.text? = value.text? := by
  cases value <;> rfl

theorem isObject_sorted (value : Json) : value.sorted.isObject = value.isObject := by
  cases value <;> rfl

theorem items_sorted (value : Json) :
    value.sorted.items? = value.items?.map fun items => items.map sorted := by
  cases value with
  | list items => exact congrArg some (sortedItems_eq_map items)
  | _ => rfl

/-- Values nested at most so deep, with the members of their objects in any order. -/
abbrev Nested (depth : Nat) (value : Json) : Prop := Within (fun _ => True) depth value

/-- Members with no key twice. -/
def Distinct (members : Members) : Prop := (members.map (·.1)).Nodup

theorem Ascending.distinct {members : Members} (ascending : Ascending members) :
    Distinct members :=
  List.pairwise_map.mpr (ascending.imp String.ne_of_lt)

/-- Objects may be asked less of. -/
theorem Within.mono {strict loose : Members → Prop} (implies : ∀ members, strict members →
    loose members) {depth : Nat} {value : Json} (within : Within strict depth value) :
    Within loose depth value := by
  induction depth generalizing value with
  | zero =>
    cases value with
    | list items => exact within.elim
    | object members => exact within.elim
    | _ => exact within
  | succ depth ih =>
    cases value with
    | list items => exact fun item member => ih (within item member)
    | object members =>
      exact ⟨implies members within.1, fun member known => ih (within.2 member known)⟩
    | _ => exact within

/-- **A sorted value can be read back** when it is not nested too deep. -/
theorem within_sorted {depth : Nat} {value : Json} (within : Nested depth value) :
    Within Ascending depth value.sorted := by
  induction depth generalizing value with
  | zero =>
    cases value with
    | list items => exact within.elim
    | object members => exact within.elim
    | _ => exact within
  | succ depth ih =>
    cases value with
    | list items =>
      intro item member
      rw [sortedItems_eq_map] at member
      obtain ⟨unsorted, known, rfl⟩ := List.mem_map.mp member
      exact ih (within unsorted known)
    | object members =>
      refine ⟨ascending_sortedMembers members, fun member known => ?_⟩
      obtain ⟨unsorted, found, same⟩ := mem_sortedMembers known
      rw [same]
      exact ih (within.2 _ found)
    | _ => exact within

/-- **What is in order stays as it is.** -/
theorem sorted_of_within {depth : Nat} {value : Json} (within : Within Ascending depth value) :
    value.sorted = value := by
  induction depth generalizing value with
  | zero =>
    cases value with
    | list items => exact within.elim
    | object members => exact within.elim
    | _ => rfl
  | succ depth ih =>
    cases value with
    | list items =>
      have same : items.map sorted = items.map id :=
        List.map_congr_left fun item member => ih (within item member)
      rw [sorted, sortedItems_eq_map, same, List.map_id]
    | object members =>
      have same : sortedMembers members = members := by
        refine (ascending_sortedMembers members).ext within.1 fun key => ?_
        rw [lookup_sortedMembers]
        cases found : members.lookup key with
        | none => rfl
        | some value => rw [Option.map_some, ih (within.2 _ (mem_of_lookup found))]
      rw [sorted, same]
    | _ => rfl

end LaneChart.Json
