/-
**The rule of placement.** Placement goes through the elements one by one, counts turns and adds
lanes on the way. What comes out can be said without any of that: where an element goes depends on
its position and the elements before it, and a lane is added at the first position that needs it.

* `Element.StandsIn`: an element names one of the lanes.
* `LaneSet.turnAt`, `LaneSet.moveAt`: the rule for the element at a position.
* `LaneSet.newcomerAt`: the lane that is first needed at a position.
* `LaneSet.getElem_assign`: assignment follows the rule.
* `LaneSet.foldl_addMissing_eq`: lanes are added when they are first needed.
* `LaneSet.place_by_rule`: the whole of placement.
-/

import LaneChart.Proofs.Workflow.Placement
import Mathlib.Tactic.ByContra

namespace LaneChart

/-- **An element names one of the lanes.** -/
def Element.StandsIn (lanes : List Lane) (element : Element) : Prop :=
  ∃ lane ∈ lanes, element.lane = some lane.id

instance (lanes : List Lane) : DecidablePred (Element.StandsIn lanes) := fun element =>
  inferInstanceAs (Decidable (∃ lane ∈ lanes, element.lane = some lane.id))

theorem Element.settledIn_eq (lanes : List Lane) (element : Element) :
    element.settledIn lanes = decide (element.StandsIn lanes) := by
  rw [Bool.eq_iff_iff, Element.settledIn_iff, decide_eq_true_eq]
  rfl

namespace LaneSet

/-! ### The rule -/

/-- How many elements in front of a position stand in none of the lanes. -/
def turnAt (lanes : List Lane) (elements : List Element) (position : Nat) : Nat :=
  (elements.take position).countP fun element => ¬ element.StandsIn lanes

/-- **The label of the lane that the element at a position moves to:** the one of the role it shows,
or else of the role whose turn it is. An element that stands in one of the lanes does not move. -/
def moveAt (set : LaneSet) (lanes : List Lane) (elements : List Element) (position : Nat) :
    Option LaneLabel :=
  elements[position]?.bind fun element =>
    if element.StandsIn lanes then none
    else ((Role.of? element).or Role.order[turnAt lanes elements position % 4]?).map set.label

/-- **The label that is first needed at a position:** none of the lanes has its id, and nobody moved
there from an earlier position. -/
def newcomerAt (lanes : List Lane) (move : Nat → Option LaneLabel) (position : Nat) :
    Option LaneLabel :=
  (move position).filter fun label =>
    label.id ∉ lanes.map (·.id) ∧ ∀ earlier < position, (move earlier).map (·.id) ≠ some label.id

/-! ### Assignment follows the rule -/

theorem order_roundRobin (turn : Nat) : Role.order[turn % 4]? = some (.roundRobin turn) := by
  have few := Nat.mod_lt turn (by decide : 4 > 0)
  unfold Role.roundRobin
  match turn % 4, few with
  | 0, _ | 1, _ | 2, _ | 3, _ => rfl

theorem labelFor_eq (set : LaneSet) (turn : Nat) (element : Element) :
    some (set.labelFor turn element) =
      ((Role.of? element).or Role.order[turn % 4]?).map set.label := by
  rw [order_roundRobin, labelFor]
  cases Role.of? element <;> rfl

/-- The label that an element is assigned on its turn. -/
def assigned (set : LaneSet) (lanes : List Lane) (turn : Nat) (element : Element) :
    Option LaneLabel :=
  if element.StandsIn lanes then none else some (set.labelFor turn element)

theorem assign_cons (set : LaneSet) (lanes : List Lane) (turn : Nat) (element : Element)
    (rest : List Element) :
    set.assign lanes turn (element :: rest) = (element, set.assigned lanes turn element) ::
      set.assign lanes (turn + turnAt lanes (element :: rest) 1) rest := by
  rw [assign, assigned, turnAt, Element.settledIn_eq]
  by_cases stands : element.StandsIn lanes <;> simp [stands]

/-- What assignment says of a position, when it starts at some turn. -/
theorem getElem_assign_from (set : LaneSet) (lanes : List Lane) (turn : Nat)
    (elements : List Element) (position : Nat) :
    (set.assign lanes turn elements)[position]? = elements[position]?.map fun element =>
      (element, set.assigned lanes (turn + turnAt lanes elements position) element) := by
  induction elements generalizing turn position with
  | nil => rfl
  | cons element rest ih =>
    rw [assign_cons]
    cases position with
    | zero => rfl
    | succ position =>
      have turns : turnAt lanes (element :: rest) 1 + turnAt lanes rest position =
          turnAt lanes (element :: rest) (position + 1) := by
        simp only [turnAt, List.take_succ_cons, List.take_zero, List.countP_cons, List.countP_nil]
        omega
      rw [List.getElem?_cons_succ, List.getElem?_cons_succ, ih, Nat.add_assoc, turns]

/-- **Assignment follows the rule.** -/
theorem getElem_assign (set : LaneSet) (lanes : List Lane) (elements : List Element)
    (position : Nat) :
    (set.assign lanes 0 elements)[position]? =
      elements[position]?.map fun element => (element, set.moveAt lanes elements position) := by
  rw [getElem_assign_from, Nat.zero_add]
  cases found : elements[position]? with
  | none => rfl
  | some element =>
    have here : set.moveAt lanes elements position =
        set.assigned lanes (turnAt lanes elements position) element := by
      rw [moveAt, found, assigned, labelFor_eq]
      rfl
    rw [here, Option.map_some, Option.map_some]

/-- Going through the positions is going through the list. -/
theorem filterMap_eq_range {α β : Type} (row : List α) (view : α → Option β) :
    row.filterMap view = (List.range row.length).filterMap fun position =>
      row[position]?.bind view := by
  induction row with
  | nil => rfl
  | cons first rest ih =>
    rw [List.length_cons, List.range_succ_eq_map, List.filterMap_cons, List.filterMap_cons,
      List.filterMap_map, ih]
    rfl

/-- The labels of those who move, by their positions. -/
theorem labels_assign (set : LaneSet) (lanes : List Lane) (elements : List Element) :
    (set.assign lanes 0 elements).filterMap (·.2) =
      (List.range elements.length).filterMap (set.moveAt lanes elements) := by
  have length : (set.assign lanes 0 elements).length = elements.length := by
    rw [← List.length_map (·.1), assign_map_fst]
  rw [filterMap_eq_range, length]
  refine congrArg (List.filterMap · _) (funext fun position => ?_)
  rw [getElem_assign]
  cases found : elements[position]? with
  | none =>
    rw [moveAt, found]
    rfl
  | some element => rfl

/-- Whoever stands in none of the lanes moves. -/
theorem length_labels (set : LaneSet) (lanes : List Lane) (turn : Nat) (elements : List Element) :
    ((set.assign lanes turn elements).filterMap (·.2)).length =
      elements.countP fun element => ¬ element.StandsIn lanes := by
  induction elements generalizing turn with
  | nil => rfl
  | cons element rest ih =>
    rw [assign_cons, List.countP_cons, ← ih (turn + turnAt lanes (element :: rest) 1), assigned]
    by_cases stands : element.StandsIn lanes <;> simp [stands]

/-! ### Lanes are added when they are first needed -/

theorem newcomerAt_eq_some_iff {lanes : List Lane} {move : Nat → Option LaneLabel} {position : Nat}
    {label : LaneLabel} :
    newcomerAt lanes move position = some label ↔ move position = some label ∧
      label.id ∉ lanes.map (·.id) ∧
        ∀ earlier < position, (move earlier).map (·.id) ≠ some label.id := by
  rw [newcomerAt, Option.filter_eq_some_iff, decide_eq_true_eq]

/-- The id of everybody who moved is among the lanes by then: the first position that needs it is
the one where its lane is added. -/
theorem mem_newcomers (lanes : List Lane) {move : Nat → Option LaneLabel} {count earlier : Nat}
    {label : LaneLabel} (before : earlier < count) (moved : move earlier = some label) :
    label.id ∈ lanes.map (·.id) ∨
      label.id ∈ ((List.range count).filterMap (newcomerAt lanes move)).map (·.id) := by
  by_cases known : label.id ∈ lanes.map (·.id)
  · exact .inl known
  refine .inr ?_
  induction earlier using Nat.strongRecOn generalizing label with
  | ind earlier ih =>
    by_cases first : ∀ sooner < earlier, (move sooner).map (·.id) ≠ some label.id
    · have added : newcomerAt lanes move earlier = some label :=
        newcomerAt_eq_some_iff.mpr ⟨moved, known, first⟩
      exact List.mem_map_of_mem
        (List.mem_filterMap.mpr ⟨earlier, List.mem_range.mpr before, added⟩)
    · push Not at first
      obtain ⟨sooner, less, same⟩ := first
      obtain ⟨other, there, sameId⟩ := Option.map_eq_some_iff.mp same
      rw [← sameId] at known ⊢
      exact ih sooner less (Nat.lt_trans less before) there known

/-- Nobody is added for somebody who moves exactly when there is a lane already. -/
theorem newcomerAt_eq_none_iff {lanes : List Lane} {move : Nat → Option LaneLabel} {position : Nat}
    {label : LaneLabel} (moved : move position = some label) :
    newcomerAt lanes move position = none ↔ label.id ∈ lanes.map (·.id) ∨
      label.id ∈ ((List.range position).filterMap (newcomerAt lanes move)).map (·.id) := by
  constructor
  · intro nobody
    by_contra missing
    rw [not_or] at missing
    have added : newcomerAt lanes move position = some label := by
      refine newcomerAt_eq_some_iff.mpr ⟨moved, missing.1, fun earlier before same => ?_⟩
      obtain ⟨other, there, sameId⟩ := Option.map_eq_some_iff.mp same
      rcases mem_newcomers lanes before there with known | known
      · exact missing.1 (sameId ▸ known)
      · exact missing.2 (sameId ▸ known)
    cases nobody.symm.trans added
  · intro there
    refine Option.eq_none_iff_forall_ne_some.mpr fun other added => ?_
    obtain ⟨same, missing, first⟩ := newcomerAt_eq_some_iff.mp added
    cases moved.symm.trans same
    rcases there with known | known
    · exact missing known
    · obtain ⟨earlierLabel, listed, sameId⟩ := List.mem_map.mp known
      obtain ⟨earlier, before, added⟩ := List.mem_filterMap.mp listed
      refine first earlier (List.mem_range.mp before) ?_
      rw [(newcomerAt_eq_some_iff.mp added).1, Option.map_some, sameId]

theorem any_lanes_iff (lanes : List Lane) (added : List LaneLabel) (id : String) :
    (lanes ++ added.map LaneLabel.lane).any (·.id == id) = true ↔
      id ∈ lanes.map (·.id) ∨ id ∈ added.map (·.id) := by
  simp only [List.any_eq_true, beq_iff_eq, List.mem_append, List.mem_map]
  constructor
  · rintro ⟨lane, known | ⟨label, known, rfl⟩, same⟩
    · exact .inl ⟨lane, known, same⟩
    · exact .inr ⟨label, known, same⟩
  · rintro (⟨lane, known, same⟩ | ⟨label, known, same⟩)
    · exact ⟨lane, .inl known, same⟩
    · exact ⟨label.lane, .inr ⟨label, known, rfl⟩, same⟩

/-- **Lanes are added when they are first needed,** in the order of the positions. -/
theorem foldl_addMissing_eq (lanes : List Lane) (move : Nat → Option LaneLabel) (count : Nat) :
    ((List.range count).filterMap move).foldl addMissing lanes =
      lanes ++ ((List.range count).filterMap (newcomerAt lanes move)).map LaneLabel.lane := by
  induction count with
  | zero => exact (List.append_nil lanes).symm
  | succ count ih =>
    rw [List.range_succ, List.filterMap_append, List.filterMap_append, List.foldl_append, ih,
      List.map_append, ← List.append_assoc]
    cases moved : move count with
    | none =>
      have nobody : newcomerAt lanes move count = none := by
        rw [newcomerAt, moved]
        rfl
      rw [List.filterMap_cons_none moved, List.filterMap_cons_none nobody]
      exact (List.append_nil _).symm
    | some label =>
      rw [List.filterMap_cons_some moved, List.filterMap_nil, List.foldl_cons, List.foldl_nil,
        addMissing]
      have there := (any_lanes_iff lanes _ label.id).trans (newcomerAt_eq_none_iff moved).symm
      cases added : newcomerAt lanes move count with
      | none =>
        rw [if_pos (there.mpr added), List.filterMap_cons_none added]
        exact (List.append_nil _).symm
      | some other =>
        obtain ⟨same, -⟩ := newcomerAt_eq_some_iff.mp added
        cases moved.symm.trans same
        have missing := mt there.mp (added ▸ Option.some_ne_none label)
        rw [if_neg missing, List.filterMap_cons_some added]
        rfl

/-- No id is added twice. -/
theorem nodup_newcomers (lanes : List Lane) (move : Nat → Option LaneLabel) (count : Nat) :
    (((List.range count).filterMap (newcomerAt lanes move)).map (·.id)).Nodup := by
  rw [List.Nodup, List.pairwise_map, List.pairwise_filterMap]
  refine List.pairwise_lt_range.imp
    fun {earlier later} before label added other addedLater same => ?_
  obtain ⟨moved, -⟩ := newcomerAt_eq_some_iff.mp added
  obtain ⟨-, -, first⟩ := newcomerAt_eq_some_iff.mp addedLater
  refine first earlier before ?_
  rw [moved, Option.map_some, same]

/-! ### Placement -/

/-- The elements after placement, by their positions. -/
theorem getElem_place_elements (set : LaneSet) (draft : Draft) (position : Nat) :
    (set.place draft).elements[position]? = draft.elements[position]?.map fun element =>
      { element with
        lane := ((set.moveAt (set.base draft) draft.elements position).map (·.id)).or
          element.lane } := by
  show ((set.assign (set.base draft) 0 draft.elements).map settle)[position]? = _
  rw [List.getElem?_map, getElem_assign, Option.map_map]
  refine congrArg (Option.map · _) (funext fun element => ?_)
  rw [Function.comp_apply]
  cases set.moveAt (set.base draft) draft.elements position <;> rfl

/-- The lanes after placement. -/
theorem place_lanes (set : LaneSet) (draft : Draft) :
    (set.place draft).lanes =
      (set.base draft ++ ((List.range draft.elements.length).filterMap
        (newcomerAt (set.base draft) (set.moveAt (set.base draft) draft.elements))).map
          LaneLabel.lane).map (Lane.gather (set.place draft).elements) := by
  show ((((set.assign (set.base draft) 0 draft.elements).filterMap (·.2)).foldl addMissing
    (set.base draft)).map _) = _
  rw [labels_assign, foldl_addMissing_eq]
  rfl

/-- Somebody stands in every lane that was added: the element that needed it first. -/
theorem members_newcomer_ne_nil (set : LaneSet) (draft : Draft) {label : LaneLabel}
    (added : label ∈ (List.range draft.elements.length).filterMap
      (newcomerAt (set.base draft) (set.moveAt (set.base draft) draft.elements))) :
    (label.lane.gather (set.place draft).elements).members ≠ [] := by
  obtain ⟨position, inside, here⟩ := List.mem_filterMap.mp added
  obtain ⟨moved, -⟩ := newcomerAt_eq_some_iff.mp here
  have placed := getElem_place_elements set draft position
  rw [List.getElem?_eq_getElem (List.mem_range.mp inside), moved] at placed
  have member := List.mem_of_getElem? placed
  refine List.ne_nil_of_mem (List.mem_map_of_mem (List.mem_filter.mpr ⟨member, ?_⟩))
  exact beq_self_eq_true _

theorem base_eq (set : LaneSet) (draft : Draft) :
    set.base draft = if draft.lanes = [] then
      [set.planning, set.execution, set.review, set.completion].map LaneLabel.lane
    else draft.lanes := by
  rw [base]
  by_cases empty : draft.lanes = []
  · rw [if_pos (List.isEmpty_iff.mpr empty), if_pos empty]
    rfl
  · rw [if_neg (mt List.isEmpty_iff.mp empty), if_neg empty]

/-- **Placement by its rule.** Let the lanes at the start be those of the draft, or those of the
four roles if it has none.

* An element that stands in one of them stays. Any other moves to the lane of the role it shows, or
  else of the role whose turn it is, where all elements in front of it that stand in none of them
  count as turns. Nothing else about any element changes, nor does their order.
* Those lanes come first, as they were but for their members. Behind them come the lanes that are
  needed and were not there, each once, in the order in which they are first needed, and somebody
  stands in each of them.
* The id and the flows stay, and the report says how many elements stood in none of the lanes and
  whether there were none. -/
theorem place_by_rule (set : LaneSet) (draft : Draft) :
    let lanes := if draft.lanes = [] then
        [set.planning, set.execution, set.review, set.completion].map LaneLabel.lane
      else draft.lanes
    let move := set.moveAt lanes draft.elements
    let added := (List.range draft.elements.length).filterMap (newcomerAt lanes move)
    let workflow : Workflow := (set.placeWithReport draft).1
    let report : PlacementReport := (set.placeWithReport draft).2
    (∀ position : Nat, workflow.elements[position]? = draft.elements[position]?.map fun element =>
      { element with lane := ((move position).map (·.id)).or element.lane }) ∧
    (workflow.lanes.map fun lane => (lane.id, lane.name)) =
      (lanes.map fun lane => (lane.id, lane.name)) ++
        added.map (fun label => (label.id, label.name)) ∧
    (added.map (·.id)).Nodup ∧ (∀ label ∈ added, label.id ∉ lanes.map (·.id)) ∧
    (∀ lane ∈ workflow.lanes.drop lanes.length, lane.members ≠ []) ∧
    workflow.id = draft.id ∧ workflow.flows = draft.flows.getD [] ∧
    report.reassigned = (draft.elements.countP fun element => ¬ element.StandsIn lanes) ∧
    (report.fabricatedLanes = true ↔ draft.lanes = []) := by
  rw [← base_eq]
  intro lanes move added workflow report
  have listed : workflow.lanes = (lanes ++ added.map LaneLabel.lane).map
      (Lane.gather workflow.elements) := place_lanes set draft
  refine ⟨getElem_place_elements set draft, ?_, nodup_newcomers _ _ _, fun label member => ?_,
    fun lane member => ?_, rfl, rfl, length_labels set lanes 0 draft.elements, List.isEmpty_iff⟩
  · rw [listed, List.map_map, List.map_append, List.map_map]
    rfl
  · obtain ⟨position, _, here⟩ := List.mem_filterMap.mp member
    exact (newcomerAt_eq_some_iff.mp here).2.1
  · rw [listed, List.map_append, ← List.length_map (Lane.gather workflow.elements),
      List.drop_left, List.map_map] at member
    obtain ⟨label, newcomer, rfl⟩ := List.mem_map.mp member
    exact members_newcomer_ne_nil set draft newcomer

/-- An element that shows its role uses up a turn as well. -/
example :
    (({} : LaneSet).place ⟨none, [⟨"a", "startEvent", "", none⟩, ⟨"b", "task", "", none⟩], none,
      []⟩).elements.map (·.lane) = [some "Lane_Planning", some "Lane_Execution"] := by decide

end LaneSet

end LaneChart
