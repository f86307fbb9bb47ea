/-
**What placement leaves behind.** However broken a draft is, the workflow that is made of it fits
together: every element stands in a lane that exists, and every lane lists the elements that
stand in it.

* `Workflow.Fits`: a workflow that fits together.
* `LaneSet.exists_lane_of_mem_settle`: no element is left without a lane.
* `LaneSet.fits_place`: a placed workflow fits together.
* `LaneSet.placeWithReport_toDraft`: a workflow that fits together and has lanes is a fixed point
  of placement.
* `LaneSet.place_restores_and_stays`: placement restores the fit, and doing it again changes
  nothing.

The elements that stay are told apart from the others by the lanes there were at the start, while
lanes are added until the end. Both agree because lanes are only ever added (`subset_addMissing`).
-/

import LaneChart.Workflow.Placement

namespace LaneChart

/-- **A workflow that fits together.** -/
structure Workflow.Fits (workflow : Workflow) : Prop where
  /-- every element stands in a lane of the workflow -/
  placed : ∀ element ∈ workflow.elements, ∃ lane ∈ workflow.lanes, element.lane = some lane.id
  /-- every lane lists the ids of the elements that stand in it, in their order -/
  listed : ∀ lane ∈ workflow.lanes,
    lane.members = (workflow.elements.filter (·.lane == some lane.id)).map (·.id)

/-! ### Lanes -/

theorem Element.settledIn_iff (lanes : List Lane) (element : Element) :
    element.settledIn lanes = true ↔ ∃ lane ∈ lanes, element.lane = some lane.id := by
  unfold Element.settledIn
  cases element.lane with
  | none => simp
  | some id =>
    simp only [List.any_eq_true, beq_iff_eq, Option.some.injEq]
    exact exists_congr fun lane => and_congr_right fun _ => eq_comm

theorem subset_addMissing (lanes : List Lane) (label : LaneLabel) :
    lanes ⊆ addMissing lanes label := by
  unfold addMissing
  split
  · exact fun _ member => member
  · exact List.subset_append_left _ _

theorem exists_lane_addMissing (lanes : List Lane) (label : LaneLabel) :
    ∃ lane ∈ addMissing lanes label, lane.id = label.id := by
  unfold addMissing
  split
  · rename_i found
    obtain ⟨lane, member, same⟩ := List.any_eq_true.mp found
    exact ⟨lane, member, beq_iff_eq.mp same⟩
  · exact ⟨label.lane, List.mem_append_right _ List.mem_cons_self, rfl⟩

theorem subset_foldl_addMissing (labels : List LaneLabel) (lanes : List Lane) :
    lanes ⊆ labels.foldl addMissing lanes := by
  induction labels generalizing lanes with
  | nil => exact fun _ member => member
  | cons label rest ih => exact List.Subset.trans (subset_addMissing lanes label) (ih _)

/-- Every label that is needed has its lane in the end. -/
theorem exists_lane_foldl_addMissing {labels : List LaneLabel} {label : LaneLabel}
    (needed : label ∈ labels) (lanes : List Lane) :
    ∃ lane ∈ labels.foldl addMissing lanes, lane.id = label.id := by
  induction labels generalizing lanes with
  | nil => cases needed
  | cons first rest ih =>
    rcases List.mem_cons.mp needed with rfl | later
    · obtain ⟨lane, member, same⟩ := exists_lane_addMissing lanes label
      exact ⟨lane, subset_foldl_addMissing rest _ member, same⟩
    · exact ih later _

@[simp] theorem Lane.gather_id (elements : List Element) (lane : Lane) :
    (lane.gather elements).id = lane.id := rfl

@[simp] theorem Lane.gather_gather (elements earlier : List Element) (lane : Lane) :
    (lane.gather earlier).gather elements = lane.gather elements := rfl

/-- A lane that lists who stands in it gathers nobody new. -/
theorem Lane.gather_eq_self {elements : List Element} {lane : Lane}
    (listed : lane.members = (elements.filter (·.lane == some lane.id)).map (·.id)) :
    lane.gather elements = lane := by
  rw [Lane.gather, ← listed]

namespace LaneSet

theorem base_ne_nil (set : LaneSet) (draft : Draft) : set.base draft ≠ [] := by
  unfold base
  split
  · simp [labels, Role.order]
  · rename_i filled
    exact fun empty => filled (by rw [empty]; rfl)

/-! ### Assignment -/

theorem assign_map_fst (set : LaneSet) (lanes : List Lane) (turn : Nat) (elements : List Element) :
    (set.assign lanes turn elements).map (·.1) = elements := by
  induction elements generalizing turn with
  | nil => rfl
  | cons first rest ih =>
    rw [assign]
    split <;> rw [List.map_cons, ih]

/-- An element that stays has a lane from the start. -/
theorem settledIn_of_mem_assign {set : LaneSet} {lanes : List Lane} {turn : Nat}
    {elements : List Element} {element : Element}
    (member : (element, none) ∈ set.assign lanes turn elements) :
    element.settledIn lanes = true := by
  induction elements generalizing turn with
  | nil => cases member
  | cons first rest ih =>
    unfold assign at member
    split at member
    · rename_i settled
      rcases List.mem_cons.mp member with same | later
      · cases same
        exact settled
      · exact ih later
    · rcases List.mem_cons.mp member with same | later
      · cases same
      · exact ih later

/-- Nobody moves when everybody has a lane from the start. -/
theorem assign_eq_of_settled {set : LaneSet} {lanes : List Lane} {elements : List Element}
    (settled : ∀ element ∈ elements, element.settledIn lanes = true) (turn : Nat) :
    set.assign lanes turn elements = elements.map fun element => (element, none) := by
  induction elements with
  | nil => rfl
  | cons first rest ih =>
    rw [assign, if_pos (settled first List.mem_cons_self),
      ih fun element member => settled element (List.mem_cons_of_mem _ member), List.map_cons]

/-- No element is left without a lane: the one it had from the start, or the one of its label,
which is added if need be. -/
theorem exists_lane_of_mem_settle {set : LaneSet} {lanes : List Lane} {turn : Nat}
    {elements : List Element} {entry : Element × Option LaneLabel}
    (member : entry ∈ set.assign lanes turn elements) :
    ∃ lane ∈ ((set.assign lanes turn elements).filterMap (·.2)).foldl addMissing lanes,
      (settle entry).lane = some lane.id := by
  obtain ⟨element, moved⟩ := entry
  cases moved with
  | none =>
    obtain ⟨lane, known, same⟩ :=
      (Element.settledIn_iff lanes element).mp (settledIn_of_mem_assign member)
    exact ⟨lane, subset_foldl_addMissing _ _ known, same⟩
  | some label =>
    have needed : label ∈ (set.assign lanes turn elements).filterMap (·.2) :=
      List.mem_filterMap.mpr ⟨_, member, rfl⟩
    obtain ⟨lane, known, same⟩ := exists_lane_foldl_addMissing needed lanes
    exact ⟨lane, known, congrArg some same.symm⟩

/-! ### Placement -/

/-- **A placed workflow fits together.** -/
theorem fits_place (set : LaneSet) (draft : Draft) : (set.place draft).Fits where
  placed := by
    intro element member
    obtain ⟨entry, assigned, rfl⟩ := List.mem_map.mp member
    obtain ⟨lane, known, same⟩ := exists_lane_of_mem_settle assigned
    exact ⟨_, List.mem_map_of_mem known, same⟩
  listed := by
    intro lane member
    obtain ⟨origin, _, rfl⟩ := List.mem_map.mp member
    rfl

/-- **Placement changes the lane of an element and nothing else.** Whatever does not depend on the
lane is the same for all elements, in the same order. -/
theorem map_place_elements {α : Type} (set : LaneSet) (draft : Draft) (view : Element → α)
    (blind : ∀ (element : Element) (lane : Option String),
      view { element with lane := lane } = view element) :
    (set.place draft).elements.map view = draft.elements.map view := by
  have settled : ∀ entry : Element × Option LaneLabel, view (settle entry) = view entry.1 := by
    rintro ⟨element, moved⟩
    cases moved with
    | none => rfl
    | some label => exact blind element (some label.id)
  calc (set.place draft).elements.map view
      = ((set.assign (set.base draft) 0 draft.elements).map settle).map view := rfl
    _ = ((set.assign (set.base draft) 0 draft.elements).map (·.1)).map view := by
        rw [List.map_map, List.map_map]
        exact List.map_congr_left fun entry _ => settled entry
    _ = draft.elements.map view := by rw [assign_map_fst]

theorem place_lanes_ne_nil (set : LaneSet) (draft : Draft) : (set.place draft).lanes ≠ [] := by
  obtain ⟨lane, member⟩ := List.exists_mem_of_ne_nil _ (set.base_ne_nil draft)
  exact List.ne_nil_of_mem (List.mem_map_of_mem (subset_foldl_addMissing _ _ member))

/-- Only elements are moved. -/
theorem reassigned_le (set : LaneSet) (draft : Draft) :
    (set.placeWithReport draft).2.reassigned ≤ draft.elements.length := by
  show ((set.assign (set.base draft) 0 draft.elements).filterMap (·.2)).length ≤ _
  calc ((set.assign (set.base draft) 0 draft.elements).filterMap (·.2)).length
      ≤ (set.assign (set.base draft) 0 draft.elements).length := List.length_filterMap_le _ _
    _ = ((set.assign (set.base draft) 0 draft.elements).map (·.1)).length :=
        (List.length_map _).symm
    _ = draft.elements.length := by rw [assign_map_fst]

/-- **A workflow that fits together and has lanes is a fixed point of placement.** -/
theorem placeWithReport_toDraft (set : LaneSet) {workflow : Workflow} (fits : workflow.Fits)
    (filled : workflow.lanes ≠ []) :
    set.placeWithReport workflow.toDraft = (workflow, ⟨0, false⟩) := by
  have notEmpty : workflow.toDraft.lanes.isEmpty = false := List.isEmpty_eq_false_iff.mpr filled
  have base : set.base workflow.toDraft = workflow.lanes := by
    rw [LaneSet.base, notEmpty]
    rfl
  have stays : set.assign workflow.lanes 0 workflow.toDraft.elements =
      workflow.elements.map fun element => (element, none) :=
    assign_eq_of_settled
      (fun element member => (Element.settledIn_iff _ _).mpr (fits.placed element member)) 0
  have noLabels : (workflow.elements.map fun element =>
      (element, (none : Option LaneLabel))).filterMap (·.2) = [] := by
    simp [List.filterMap_map]
  have sameElements : (workflow.elements.map fun element =>
      (element, (none : Option LaneLabel))).map settle = workflow.elements := by
    simp [List.map_map, Function.comp_def, settle]
  have sameLanes : workflow.lanes.map (Lane.gather workflow.elements) = workflow.lanes :=
    calc workflow.lanes.map (Lane.gather workflow.elements)
        = workflow.lanes.map id :=
          List.map_congr_left fun lane member => Lane.gather_eq_self (fits.listed lane member)
      _ = workflow.lanes := List.map_id _
  unfold placeWithReport
  simp only [base, stays, noLabels, sameElements, notEmpty, List.foldl_nil, sameLanes,
    List.length_nil]
  rfl

/-- **Placement restores the fit, and doing it again changes nothing.** Every element has a lane
of the workflow, every lane lists exactly the elements that stand in it, and placing the outcome
once more gives it back, with nobody moved and no lane made up. -/
theorem place_restores_and_stays (set : LaneSet) (draft : Draft) :
    (∀ element ∈ (set.place draft).elements,
      ∃ lane ∈ (set.place draft).lanes, element.lane = some lane.id) ∧
    (∀ lane ∈ (set.place draft).lanes, lane.members =
      ((set.place draft).elements.filter (·.lane == some lane.id)).map (·.id)) ∧
    set.placeWithReport (set.place draft).toDraft =
      (set.place draft, { reassigned := 0, fabricatedLanes := false }) :=
  ⟨(fits_place set draft).placed, (fits_place set draft).listed,
    placeWithReport_toDraft set (fits_place set draft) (place_lanes_ne_nil set draft)⟩

end LaneSet

end LaneChart
