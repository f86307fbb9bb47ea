/-
**Taking turns fills the lanes evenly.** When a draft has no lanes, and no element of it names one
of the four lanes or shows a role, every element takes a turn. The turn of an element is its
position then, so the elements are dealt out to the four lanes like cards.

* `LaneSet.AllTakeTurns`: drafts like that.
* `LaneSet.moveAt_turn`, `LaneSet.place_elements_turns`, `LaneSet.place_lanes_turns`: where their
  elements go, and what lanes there are.
* `dealt`, `length_dealt`: every fourth entry of a row, and how many there are.
* `LaneSet.members_turns`: a lane lists every fourth element.
* `LaneSet.place_deals_out`: the four lanes.
-/

import LaneChart.Proofs.Workflow.Rule
import Mathlib

namespace LaneChart

/-! ### Every fourth entry -/

/-- **What is dealt to a place** when the entries of a row go to four places in turn. -/
def dealt {α : Type} (place : Nat) (row : List α) : List α :=
  (row.zipIdx.filter fun (_, position) => position % 4 = place).map (·.1)

theorem countP_range_turns {place : Nat} (inside : place < 4) (count : Nat) :
    (List.range count).countP (fun position => position % 4 = place) = (count - place) ⌈/⌉ 4 := by
  rw [Nat.ceilDiv_eq_add_pred_div]
  induction count with
  | zero =>
    rw [List.range_zero, List.countP_nil]
    omega
  | succ count ih =>
    rw [List.range_succ, List.countP_append, ih, List.countP_singleton]
    by_cases here : count % 4 = place
    · rw [if_pos (decide_eq_true here)]
      omega
    · rw [if_neg (by simpa using here)]
      omega

/-- **How many are dealt to a place.** -/
theorem length_dealt {α : Type} {place : Nat} (inside : place < 4) (row : List α) :
    (dealt place row).length = (row.length - place) ⌈/⌉ 4 := by
  have positions : row.zipIdx.map (·.2) = List.range row.length := by
    rw [List.zipIdx_map_snd, List.range_eq_range']
  rw [dealt, List.length_map, ← List.countP_eq_length_filter, ← countP_range_turns inside,
    ← positions, List.countP_map]
  rfl

namespace LaneSet

variable {set : LaneSet} {draft : Draft}

/-! ### Where everybody goes -/

/-- **Every element takes a turn:** there are no lanes, and nobody names one of the four or shows a
role. -/
structure AllTakeTurns (set : LaneSet) (draft : Draft) : Prop where
  bare : draft.lanes = []
  stray : ∀ element ∈ draft.elements, ∀ label ∈ set.labels, element.lane ≠ some label.id
  plain : ∀ element ∈ draft.elements, Role.of? element = none

theorem base_of_bare (bare : draft.lanes = []) :
    set.base draft = set.labels.map LaneLabel.lane := by
  rw [base, bare]
  rfl

theorem label_mem_labels (set : LaneSet) (role : Role) : set.label role ∈ set.labels :=
  List.mem_map_of_mem (by cases role <;> decide)

namespace AllTakeTurns

/-- Nobody stands in any of the lanes. -/
theorem not_standsIn (turns : set.AllTakeTurns draft) {element : Element}
    (member : element ∈ draft.elements) : ¬ element.StandsIn (set.base draft) := by
  rw [base_of_bare turns.bare]
  rintro ⟨lane, known, named⟩
  obtain ⟨label, listed, rfl⟩ := List.mem_map.mp known
  exact turns.stray element member label listed named

end AllTakeTurns

/-- Everybody in front of a position has taken a turn. -/
theorem turnAt_turns (turns : set.AllTakeTurns draft) {position : Nat}
    (inside : position < draft.elements.length) :
    turnAt (set.base draft) draft.elements position = position := by
  have all : (draft.elements.take position).countP
      (fun element => ¬ element.StandsIn (set.base draft)) =
        (draft.elements.take position).length :=
    List.countP_eq_length.mpr fun element member =>
      decide_eq_true (turns.not_standsIn (List.mem_of_mem_take member))
  rw [turnAt, all, List.length_take, Nat.min_eq_left inside.le]

/-- **Everybody moves to the lane whose turn it is.** -/
theorem moveAt_turn (turns : set.AllTakeTurns draft) {position : Nat}
    (inside : position < draft.elements.length) :
    set.moveAt (set.base draft) draft.elements position =
      some (set.label (.roundRobin position)) := by
  have member := List.getElem_mem inside
  rw [moveAt, List.getElem?_eq_getElem inside, Option.bind_some,
    if_neg (turns.not_standsIn member), turns.plain _ member, turnAt_turns turns inside,
    order_roundRobin]
  rfl

/-- The elements after everybody took a turn. -/
theorem place_elements_turns (turns : set.AllTakeTurns draft) :
    (set.place draft).elements = draft.elements.zipIdx.map fun (element, position) =>
      { element with lane := some (set.label (.roundRobin position)).id } := by
  refine List.ext_getElem? fun position => ?_
  rw [getElem_place_elements, List.getElem?_map, List.getElem?_zipIdx, Option.map_map, Nat.zero_add]
  by_cases inside : position < draft.elements.length
  · rw [moveAt_turn turns inside]
    rfl
  · rw [List.getElem?_eq_none (Nat.le_of_not_lt inside)]
    rfl

/-- The lanes after everybody took a turn: the four, and no others are needed. -/
theorem place_lanes_turns (turns : set.AllTakeTurns draft) :
    (set.place draft).lanes =
      set.labels.map fun label => label.lane.gather (set.place draft).elements := by
  have nobody : (List.range draft.elements.length).filterMap
      (newcomerAt (set.base draft) (set.moveAt (set.base draft) draft.elements)) = [] := by
    refine List.filterMap_eq_nil_iff.mpr fun position member => ?_
    refine (newcomerAt_eq_none_iff (moveAt_turn turns (List.mem_range.mp member))).mpr (.inl ?_)
    rw [base_of_bare turns.bare, List.map_map]
    exact List.mem_map_of_mem (set.label_mem_labels _)
  rw [place_lanes, nobody, base_of_bare turns.bare, List.map_nil, List.append_nil, List.map_map]
  rfl

/-! ### Who is in a lane -/

/-- With ids that are all different, it is the turn of a lane at every fourth position. -/
theorem roundRobin_iff (distinct : (set.labels.map (·.id)).Nodup) {place : Nat} {label : LaneLabel}
    (here : set.labels[place]? = some label) (position : Nat) :
    (set.label (.roundRobin position)).id = label.id ↔ position % 4 = place := by
  have turn : set.labels[position % 4]? = some (set.label (.roundRobin position)) := by
    rw [labels, List.getElem?_map, order_roundRobin]
    rfl
  constructor
  · intro same
    have bound : position % 4 < (set.labels.map (·.id)).length :=
      Nat.mod_lt position (by decide : 4 > 0)
    refine (List.getElem?_inj bound distinct).mp ?_
    rw [List.getElem?_map, List.getElem?_map, turn, here, Option.map_some, Option.map_some, same]
  · rintro rfl
    rw [here] at turn
    rw [Option.some.inj turn]

/-- **A lane lists every fourth element,** from its own place on. -/
theorem members_turns (turns : set.AllTakeTurns draft) (distinct : (set.labels.map (·.id)).Nodup)
    {place : Nat} {label : LaneLabel} (here : set.labels[place]? = some label) :
    (label.lane.gather (set.place draft).elements).members =
      (dealt place draft.elements).map (·.id) := by
  have chosen : ∀ entry ∈ draft.elements.zipIdx,
      (some (set.label (.roundRobin entry.2)).id == some label.id) =
        decide (entry.2 % 4 = place) := by
    intro entry _
    rw [Bool.eq_iff_iff, beq_iff_eq, Option.some_inj, decide_eq_true_eq]
    exact roundRobin_iff distinct here entry.2
  show ((set.place draft).elements.filter (·.lane == some label.id)).map (·.id) = _
  rw [place_elements_turns turns, List.filter_map, List.map_map, dealt, List.map_map,
    ← List.filter_congr chosen]
  rfl

/-- **Taking turns fills the lanes evenly.** Take any draft without lanes in which nobody names one
of the four standard lanes or shows a role. After placement there are the four lanes in their order,
and lane number `k` lists the elements at the positions that leave `k` when divided by four, in
their order; these elements, and no others, stand in it. So it has a fourth of the elements behind
the first `k`, rounded up, and no lane has more than one member more than another. -/
theorem place_deals_out (draft : Draft) (turns : ({} : LaneSet).AllTakeTurns draft) :
    let workflow : Workflow := ({} : LaneSet).place draft
    let count := draft.elements.length
    (workflow.lanes.map fun lane => (lane.id, lane.name)) =
        ({} : LaneSet).labels.map (fun label => (label.id, label.name)) ∧
      (∀ position : Nat, workflow.elements[position]? = draft.elements[position]?.map fun element =>
        { element with lane := workflow.lanes[position % 4]?.map (·.id) }) ∧
      (∀ k < 4, ∃ lane, workflow.lanes[k]? = some lane ∧
        lane.members = (dealt k draft.elements).map (·.id) ∧
        lane.members.length = (count - k) ⌈/⌉ 4) ∧
      ∀ first ∈ workflow.lanes, ∀ second ∈ workflow.lanes,
        first.members.length ≤ second.members.length + 1 := by
  intro workflow count
  have distinct : (({} : LaneSet).labels.map (·.id)).Nodup := by decide
  have lanes : workflow.lanes = _ := place_lanes_turns turns
  have lane : ∀ k < 4, ∃ lane, workflow.lanes[k]? = some lane ∧
      lane.members = (dealt k draft.elements).map (·.id) ∧
      lane.members.length = (count - k) ⌈/⌉ 4 := by
    intro k inside
    obtain ⟨label, here⟩ : ∃ label, ({} : LaneSet).labels[k]? = some label :=
      ⟨_, List.getElem?_eq_getElem (show k < ({} : LaneSet).labels.length from inside)⟩
    have members := members_turns turns distinct here
    refine ⟨_, ?_, members, ?_⟩
    · rw [lanes, List.getElem?_map, here]
      rfl
    · rw [members, List.length_map, length_dealt inside]
  refine ⟨?_, fun position => ?_, lane, fun first member second member' => ?_⟩
  · rw [lanes, List.map_map]
    rfl
  · have turn : workflow.lanes[position % 4]?.map (·.id) =
        some (({} : LaneSet).label (.roundRobin position)).id := by
      rw [lanes, List.getElem?_map, labels, List.getElem?_map, order_roundRobin]
      rfl
    rw [turn, show workflow.elements = _ from place_elements_turns turns, List.getElem?_map,
      List.getElem?_zipIdx, Option.map_map, Nat.zero_add]
    rfl
  · have few : workflow.lanes.length = 4 := by
      rw [lanes]
      rfl
    have size : ∀ lane ∈ workflow.lanes, ∃ k < 4, lane.members.length = (count - k) ⌈/⌉ 4 := by
      intro other known
      obtain ⟨k, inside, rfl⟩ := List.mem_iff_getElem.mp known
      obtain ⟨found, here, -, length⟩ := lane k (few ▸ inside)
      rw [List.getElem?_eq_getElem inside] at here
      cases here
      exact ⟨k, few ▸ inside, length⟩
    obtain ⟨j, jInside, lengthFirst⟩ := size first member
    obtain ⟨k, kInside, lengthSecond⟩ := size second member'
    rw [lengthFirst, lengthSecond, Nat.ceilDiv_eq_add_pred_div, Nat.ceilDiv_eq_add_pred_div]
    omega

/-- A draft with an id twice and a lane that is nowhere. -/
def loose : Draft :=
  ⟨none, [⟨"a", "task", "", some "L"⟩, ⟨"b", "task", "", none⟩, ⟨"c", "task", "", none⟩,
    ⟨"d", "task", "", none⟩, ⟨"a", "task", "", none⟩], none, []⟩

theorem place_deals_out_loose :
    ({} : LaneSet).AllTakeTurns loose ∧
      ∃ lane, (({} : LaneSet).place loose).lanes[0]? = some lane ∧ lane.members = ["a", "a"] := by
  have turns : ({} : LaneSet).AllTakeTurns loose :=
    { bare := rfl
      stray := by decide
      plain := by decide }
  obtain ⟨lane, here, members, -⟩ := (place_deals_out loose turns).2.2.1 0 (by decide)
  exact ⟨turns, lane, here, members.trans rfl⟩

end LaneSet

end LaneChart
