/-
**How often an element is listed.** Placement makes no two lanes of one id, but it keeps those that
a draft or a lane set has, and each of them lists everybody who stands in a lane of that id. So an
element is listed once exactly when the lane it ends up in was there at most once to begin with.

* `Workflow.homes`: how many lanes list an element.
* `Workflow.Fits.count_members`: how often the lanes list an id.
* `countP_foldl_addMissing_le_one`: lanes that are added are never the second of their id.
* `LaneSet.listed_once_iff`: every element is listed exactly once, if and only if nobody ends up in
  a lane that was there twice.
-/

import LaneChart.Proofs.Workflow.Placement
import Mathlib

namespace LaneChart

/-- **How many lanes list an element:** those with the id of the lane it stands in. -/
def Workflow.homes (workflow : Workflow) (element : Element) : Nat :=
  workflow.lanes.countP (element.lane == some ·.id)

/-! ### Listed elements -/

/-- A count is a sum of ones. -/
theorem countP_eq_sum_map {α : Type} (row : List α) (counted : α → Bool) :
    row.countP counted = (row.map fun entry => if counted entry then 1 else 0).sum := by
  induction row with
  | nil => rfl
  | cons entry row ih => rw [List.countP_cons, ih, List.map_cons, List.sum_cons, Nat.add_comm]

/-- How often an id is listed by lanes that list who stands in them: once for every such lane and
every element with the id. -/
theorem count_flatMap_members {lanes : List Lane} {elements : List Element}
    (listed : ∀ lane ∈ lanes,
      lane.members = (elements.filter (·.lane == some lane.id)).map (·.id)) (id : String) :
    (lanes.flatMap (·.members)).count id =
      ((elements.filter (·.id == id)).map fun element =>
        lanes.countP (element.lane == some ·.id)).sum := by
  induction lanes with
  | nil => simp
  | cons lane lanes ih =>
    have here : lane.members.count id = ((elements.filter (·.id == id)).map fun element =>
        if element.lane == some lane.id then 1 else 0).sum := by
      rw [← countP_eq_sum_map, listed lane List.mem_cons_self, List.count, List.countP_map,
        List.countP_filter, List.countP_filter]
      exact List.countP_congr fun element _ => by simp [and_comm]
    rw [List.flatMap_cons, List.count_append, here,
      ih fun other member => listed other (List.mem_cons_of_mem _ member), ← List.sum_map_add]
    refine congrArg List.sum (List.map_congr_left fun element _ => ?_)
    rw [List.countP_cons, Nat.add_comm]

/-- Every id is listed once for every element with it and every home of that element. -/
theorem Workflow.Fits.count_members {workflow : Workflow} (fits : workflow.Fits) (id : String) :
    (workflow.lanes.flatMap (·.members)).count id =
      ((workflow.elements.filter (·.id == id)).map workflow.homes).sum :=
  count_flatMap_members fits.listed id

/-- No element is without a home. -/
theorem Workflow.Fits.one_le_homes {workflow : Workflow} (fits : workflow.Fits) {element : Element}
    (member : element ∈ workflow.elements) : 1 ≤ workflow.homes element := by
  obtain ⟨lane, known, same⟩ := fits.placed element member
  exact List.countP_pos_iff.mpr ⟨lane, known, beq_iff_eq.mpr same⟩

/-- A row of positive numbers adds up to its length only if all of them are one. -/
theorem eq_one_of_sum_map_eq_length {α : Type} {row : List α} {number : α → Nat}
    (positive : ∀ entry ∈ row, 1 ≤ number entry) (sum : (row.map number).sum = row.length) :
    ∀ entry ∈ row, number entry = 1 := by
  by_contra other
  push Not at other
  obtain ⟨entry, member, more⟩ := other
  have larger := List.sum_lt_sum (fun _ => 1) number positive
    ⟨entry, member, lt_of_le_of_ne (positive entry member) more.symm⟩
  rw [sum] at larger
  simp at larger

/-- **Every id is listed as often as there are elements with it,** exactly when every element has
one home. -/
theorem Workflow.Fits.count_members_iff {workflow : Workflow} (fits : workflow.Fits) :
    (∀ id, (workflow.lanes.flatMap (·.members)).count id =
        (workflow.elements.map (·.id)).count id) ↔
      ∀ element ∈ workflow.elements, workflow.homes element = 1 := by
  have elements : ∀ id, (workflow.elements.map (·.id)).count id =
      (workflow.elements.filter (·.id == id)).length := by
    intro id
    rw [List.count, List.countP_map, List.countP_eq_length_filter]
    rfl
  simp only [fits.count_members, elements]
  constructor
  · intro often element member
    refine eq_one_of_sum_map_eq_length ?_ (often element.id) element
      (List.mem_filter.mpr ⟨member, beq_self_eq_true _⟩)
    exact fun other known => fits.one_le_homes (List.mem_of_mem_filter known)
  · intro once id
    have ones : (workflow.elements.filter (·.id == id)).map workflow.homes =
        (workflow.elements.filter (·.id == id)).map fun _ => 1 :=
      List.map_congr_left fun element member => once element (List.mem_of_mem_filter member)
    rw [ones]
    simp

/-! ### Lanes that are there twice -/

theorem countP_addMissing_le_one (lanes : List Lane) (label : LaneLabel) (id : String) :
    (addMissing lanes label).countP (·.id == id) ≤ 1 ↔ lanes.countP (·.id == id) ≤ 1 := by
  unfold addMissing
  split
  · rfl
  · rename_i missing
    rw [List.countP_append, List.countP_singleton]
    split
    · rename_i same
      have none : lanes.countP (·.id == id) = 0 := by
        refine List.countP_eq_zero.mpr fun lane member other => missing ?_
        exact List.any_eq_true.mpr ⟨lane, member, beq_iff_eq.mpr
          ((beq_iff_eq.mp other).trans (beq_iff_eq.mp same).symm)⟩
      omega
    · rfl

/-- **Lanes that are added are never the second of their id.** -/
theorem countP_foldl_addMissing_le_one (labels : List LaneLabel) (lanes : List Lane) (id : String) :
    (labels.foldl addMissing lanes).countP (·.id == id) ≤ 1 ↔ lanes.countP (·.id == id) ≤ 1 := by
  induction labels generalizing lanes with
  | nil => rfl
  | cons label rest ih => exact (ih _).trans (countP_addMissing_le_one lanes label id)

namespace LaneSet

/-- An element has one home exactly when there was at most one lane of its id to begin with. -/
theorem homes_place_eq_one_iff (set : LaneSet) (draft : Draft) {element : Element}
    (member : element ∈ (set.place draft).elements) :
    (set.place draft).homes element = 1 ↔
      ∀ id, element.lane = some id → (set.base draft).countP (·.id == id) ≤ 1 := by
  obtain ⟨lane, _, stands⟩ := (fits_place set draft).placed element member
  have positive := (fits_place set draft).one_le_homes member
  have homes : (set.place draft).homes element =
      (((set.assign (set.base draft) 0 draft.elements).filterMap (·.2)).foldl addMissing
        (set.base draft)).countP (·.id == lane.id) := by
    rw [Workflow.homes, stands, place, placeWithReport, List.countP_map]
    refine List.countP_congr fun other _ => ?_
    rw [Function.comp_apply, Lane.gather_id, beq_iff_eq, beq_iff_eq, Option.some.injEq, eq_comm]
  rw [homes] at positive ⊢
  simp only [stands, Option.some.injEq, forall_eq']
  rw [← countP_foldl_addMissing_le_one]
  exact ⟨le_of_eq, fun few => le_antisymm few positive⟩

/-- **Every element is listed once, unless it stands in a lane that was there twice.** The lanes
together list every id exactly as often as the draft has elements with it, if and only if every
element is listed by one lane; and that is so if and only if nobody ends up in a lane whose id the
lanes at the start had more than once. -/
theorem listed_once_iff (set : LaneSet) (draft : Draft) :
    let workflow := set.place draft
    ((∀ id, (workflow.lanes.flatMap (·.members)).count id =
        (draft.elements.map (·.id)).count id) ↔
      ∀ element ∈ workflow.elements, workflow.homes element = 1) ∧
    ((∀ element ∈ workflow.elements, workflow.homes element = 1) ↔
      ∀ element ∈ workflow.elements, ∀ id, element.lane = some id →
        (set.base draft).countP (·.id == id) ≤ 1) := by
  intro workflow
  have sameIds : workflow.elements.map (·.id) = draft.elements.map (·.id) :=
    map_place_elements set draft (·.id) fun _ _ => rfl
  rw [← sameIds]
  refine ⟨(fits_place set draft).count_members_iff, ?_⟩
  exact forall₂_congr fun element member => homes_place_eq_one_iff set draft member

/-- A draft with two lanes of one id, and an element that stands in them. -/
def twinLanes : Draft where
  id := none
  elements := [⟨"a", "task", "", some "L"⟩]
  flows := none
  lanes := [⟨"L", "", []⟩, ⟨"L", "", []⟩]

/-- Both lanes list the element. -/
theorem twinLanes_list_twice :
    ((({} : LaneSet).place twinLanes).lanes.flatMap (·.members)).count "a" = 2 ∧
      (twinLanes.elements.map (·.id)).count "a" = 1 := by
  decide

end LaneSet

end LaneChart
