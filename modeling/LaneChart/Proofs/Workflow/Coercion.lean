/-
**Reading a workflow as a plan again.** A workflow that was printed as JSON can be handed in as a
plan. What is read of it are its elements, its flows and its lanes without their members, whatever
the order of the members of the objects. Placement gathers the members of every lane anew, so the
workflow comes out as it was.

* `Draft.ofJson_sorted`: the order of members does not matter.
* `Draft.ofJson_toJson`: the draft in a printed workflow.
* `Workflow.within_sorted_toJson`: a printed workflow can be read back as JSON.
* `LaneSet.placeWithReport_emptied`: placement does not look at members of lanes.
* `LaneSet.placeWithReport_ofJson`: a placed workflow that is printed, read and placed again.
-/

import LaneChart.Proofs.Json.Sorting
import LaneChart.Proofs.Workflow.Placement
import LaneChart.Workflow.Plan
import LaneChart.Workflow.Record

namespace LaneChart

/-! ### The order of members -/

namespace Draft

open Json

theorem textOf_sorted (value : Option Json) : textOf (value.map sorted) = textOf value := by
  cases value with
  | none => rfl
  | some value => cases value <;> rfl

theorem objectsIn_sorted (value : Option Json) :
    objectsIn (value.map sorted) = (objectsIn value).map sorted := by
  have items : (value.map sorted).bind Json.items? =
      (value.bind Json.items?).map fun items => items.map sorted := by
    cases value with
    | none => rfl
    | some value => exact items_sorted value
  have same : Json.isObject ∘ sorted = Json.isObject := funext isObject_sorted
  rw [objectsIn, objectsIn, items]
  cases value.bind Json.items? with
  | none => rfl
  | some items =>
    show (items.map sorted).filter Json.isObject = (items.filter Json.isObject).map sorted
    rw [List.filter_map, same]

theorem elementOf_sorted (value : Json) : elementOf value.sorted = elementOf value := by
  have lane : ((value.get? "lane").map sorted).bind Json.text? =
      (value.get? "lane").bind Json.text? := by
    cases value.get? "lane" with
    | none => rfl
    | some value => exact text_sorted value
  simp only [elementOf, get_sorted, textOf_sorted, lane]

theorem flowOf_sorted (value : Json) : flowOf value.sorted = flowOf value := by
  simp only [flowOf, get_sorted, textOf_sorted]

theorem laneOf_sorted (value : Json) : laneOf value.sorted = laneOf value := by
  simp only [laneOf, get_sorted, textOf_sorted]

theorem rootOf_sorted (value : Json) : rootOf value.sorted = (rootOf value).sorted := by
  rw [rootOf, rootOf, get_sorted]
  cases value.get? "definitions" with
  | none => rfl
  | some inner => cases inner <;> rfl

/-- **The order of members does not matter** to what is read. -/
theorem ofJson_sorted (value : Json) : ofJson value.sorted = ofJson value := by
  have elements : elementOf ∘ sorted = elementOf := funext elementOf_sorted
  have flows : flowOf ∘ sorted = flowOf := funext flowOf_sorted
  have lanes : laneOf ∘ sorted = laneOf := funext laneOf_sorted
  have id : (((rootOf value).get? "id").map sorted).bind Json.text? =
      ((rootOf value).get? "id").bind Json.text? := by
    cases (rootOf value).get? "id" with
    | none => rfl
    | some value => exact text_sorted value
  have flowsRead : ((((rootOf value).get? "flows").map sorted).map fun flows =>
      (objectsIn (some flows)).map flowOf) =
      ((rootOf value).get? "flows").map fun flows => (objectsIn (some flows)).map flowOf := by
    cases (rootOf value).get? "flows" with
    | none => rfl
    | some value =>
      show some ((objectsIn ((some value).map sorted)).map flowOf) = _
      rw [objectsIn_sorted, List.map_map, flows]
      rfl
  simp only [ofJson, rootOf_sorted, get_sorted, objectsIn_sorted, List.map_map, elements, lanes, id,
    flowsRead]

end Draft

/-! ### A printed workflow -/

/-- A lane without its members. -/
def Lane.emptied (lane : Lane) : Lane := { lane with members := [] }

theorem Element.elementOf_toJson (element : Element) :
    Draft.elementOf element.toJson = element := by
  obtain ⟨id, typeName, name, lane⟩ := element
  cases lane <;> rfl

theorem Flow.flowOf_toJson (flow : Flow) : Draft.flowOf flow.toJson = flow := rfl

theorem Lane.laneOf_toJson (lane : Lane) : Draft.laneOf lane.toJson = lane.emptied := rfl

/-- All items of a list of objects are taken. -/
theorem Draft.objectsIn_list {α : Type} (toJson : α → Json)
    (objects : ∀ x, (toJson x).isObject = true) (xs : List α) :
    objectsIn (some (.list (xs.map toJson))) = xs.map toJson := by
  show (xs.map toJson).filter Json.isObject = _
  refine List.filter_eq_self.mpr fun value member => ?_
  obtain ⟨x, _, rfl⟩ := List.mem_map.mp member
  exact objects x

/-- The members of a printed workflow. -/
theorem Workflow.get_toJson (workflow : Workflow) :
    workflow.toJson.get? "definitions" = none ∧
      workflow.toJson.get? "id" = workflow.id.map Json.text ∧
      workflow.toJson.get? "elements" = some (.list (workflow.elements.map Element.toJson)) ∧
      workflow.toJson.get? "flows" = some (.list (workflow.flows.map Flow.toJson)) ∧
      workflow.toJson.get? "swimlanes" = some (.list (workflow.lanes.map Lane.toJson)) := by
  unfold Workflow.toJson
  cases workflow.id <;> exact ⟨rfl, rfl, rfl, rfl, rfl⟩

/-- **The draft in a printed workflow.** An empty id counts as none, and the members of lanes are
not read. -/
theorem Draft.ofJson_toJson (workflow : Workflow) :
    ofJson workflow.toJson =
      { id := workflow.id.filter (· ≠ "")
        elements := workflow.elements
        flows := some workflow.flows
        lanes := workflow.lanes.map Lane.emptied } := by
  obtain ⟨definitions, id, elements, flows, lanes⟩ := workflow.get_toJson
  have root : rootOf workflow.toJson = workflow.toJson := by
    rw [rootOf, definitions]
  have idRead : (workflow.id.map Json.text).bind Json.text? = workflow.id := by
    cases workflow.id <;> rfl
  have elementsRead : elementOf ∘ Element.toJson = fun element => element :=
    funext Element.elementOf_toJson
  have flowsRead : flowOf ∘ Flow.toJson = fun flow => flow := funext Flow.flowOf_toJson
  have lanesRead : laneOf ∘ Lane.toJson = Lane.emptied := funext Lane.laneOf_toJson
  simp only [ofJson, root, id, idRead, elements, flows, lanes, Option.map_some,
    objectsIn_list Element.toJson (fun _ => rfl), objectsIn_list Flow.toJson (fun _ => rfl),
    objectsIn_list Lane.toJson (fun _ => rfl), List.map_map, elementsRead, flowsRead, lanesRead,
    List.map_id']

/-! ### The nesting of a printed workflow -/

theorem Element.within_toJson (depth : Nat) (element : Element) :
    Json.Within Json.Distinct (depth + 1) element.toJson := by
  refine ⟨(by decide : ["id", "type", "name", "lane"].Nodup), ?_⟩
  simp only [List.forall_mem_cons, Json.within_text, Json.within_ofText, true_and]
  exact nofun

theorem Flow.within_toJson (depth : Nat) (flow : Flow) :
    Json.Within Json.Distinct (depth + 1) flow.toJson := by
  refine ⟨(by decide : ["id", "sourceRef", "targetRef", "name"].Nodup), ?_⟩
  simp only [List.forall_mem_cons, Json.within_text, true_and]
  exact nofun

theorem Lane.within_toJson (depth : Nat) (lane : Lane) :
    Json.Within Json.Distinct (depth + 2) lane.toJson := by
  refine ⟨(by decide : ["id", "name", "elements"].Nodup), ?_⟩
  simp only [List.forall_mem_cons, Json.within_text, true_and]
  exact ⟨Json.within_map (Json.within_text depth) lane.members, nofun⟩

/-- A printed workflow is nested four levels deep, and has no key twice. -/
theorem Workflow.within_toJson (depth : Nat) (workflow : Workflow) :
    Json.Within Json.Distinct (depth + 4) workflow.toJson := by
  refine ⟨?_, List.forall_mem_append.mpr ⟨?_, ?_⟩⟩
  · cases workflow.id with
    | none => exact (by decide : ["elements", "flows", "swimlanes"].Nodup)
    | some id => exact (by decide : ["id", "elements", "flows", "swimlanes"].Nodup)
  · cases workflow.id with
    | none => exact nofun
    | some id => exact List.forall_mem_singleton.mpr (Json.within_text _ id)
  · simp only [List.forall_mem_cons]
    exact ⟨Json.within_map (Element.within_toJson (depth + 1)) workflow.elements,
      Json.within_map (Flow.within_toJson (depth + 1)) workflow.flows,
      Json.within_map (Lane.within_toJson depth) workflow.lanes, nofun⟩

theorem Workflow.nested_toJson (depth : Nat) (workflow : Workflow) :
    Json.Nested (depth + 4) workflow.toJson :=
  (workflow.within_toJson depth).mono fun _ _ => trivial

/-- A printed workflow can be read back, with its members in order. -/
theorem Workflow.within_sorted_toJson (depth : Nat) (workflow : Workflow) :
    Json.Within Json.Ascending (depth + 4) workflow.toJson.sorted :=
  Json.within_sorted (workflow.nested_toJson depth)

/-! ### Placement -/

namespace LaneSet

theorem settledIn_emptied (lanes : List Lane) (element : Element) :
    element.settledIn (lanes.map Lane.emptied) = element.settledIn lanes := by
  unfold Element.settledIn
  cases element.lane with
  | none => rfl
  | some id =>
    show (lanes.map Lane.emptied).any (·.id == id) = lanes.any (·.id == id)
    rw [List.any_map]
    rfl

theorem assign_emptied (set : LaneSet) (lanes : List Lane) (turn : Nat) (elements : List Element) :
    set.assign (lanes.map Lane.emptied) turn elements = set.assign lanes turn elements := by
  induction elements generalizing turn with
  | nil => rfl
  | cons element elements ih => rw [assign, assign, settledIn_emptied, ih, ih]

theorem foldl_addMissing_emptied (labels : List LaneLabel) (lanes : List Lane) :
    labels.foldl addMissing (lanes.map Lane.emptied) =
      (labels.foldl addMissing lanes).map Lane.emptied := by
  induction labels generalizing lanes with
  | nil => rfl
  | cons label labels ih =>
    have step : addMissing (lanes.map Lane.emptied) label =
        (addMissing lanes label).map Lane.emptied := by
      unfold addMissing
      rw [List.any_map]
      show (if lanes.any (·.id == label.id) then _ else _) = _
      split
      · rfl
      · rw [List.map_append]
        rfl
    rw [List.foldl_cons, List.foldl_cons, step, ih]

theorem base_emptied (set : LaneSet) (draft : Draft) :
    set.base { draft with lanes := draft.lanes.map Lane.emptied } =
      (set.base draft).map Lane.emptied := by
  unfold base
  rw [List.isEmpty_map]
  split
  · rw [List.map_map]
    rfl
  · rfl

/-- **Placement does not look at the members of lanes.** -/
theorem placeWithReport_emptied (set : LaneSet) (draft : Draft) :
    set.placeWithReport { draft with lanes := draft.lanes.map Lane.emptied } =
      set.placeWithReport draft := by
  have gathered : ∀ elements : List Element,
      Lane.gather elements ∘ Lane.emptied = Lane.gather elements := fun _ => rfl
  simp only [placeWithReport, base_emptied, assign_emptied, foldl_addMissing_emptied, List.map_map,
    gathered, List.isEmpty_map]

/-- **A placed workflow that is printed, read and placed again** is the same workflow, and nothing
is changed on the way. Only an empty id would get lost. -/
theorem placeWithReport_ofJson (set : LaneSet) (draft : Draft) (named : draft.id ≠ some "") :
    set.placeWithReport (Draft.ofJson (set.place draft).toJson) =
      (set.place draft, ⟨0, false⟩) := by
  have kept : draft.id.filter (· ≠ "") = draft.id := by
    cases known : draft.id with
    | none => rfl
    | some own =>
      have filled : own ≠ "" := fun empty => named (by rw [known, empty])
      simp [filled]
  have same : Draft.ofJson (set.place draft).toJson =
      { (set.place draft).toDraft with
        lanes := (set.place draft).toDraft.lanes.map Lane.emptied } := by
    rw [Draft.ofJson_toJson]
    show ({ id := draft.id.filter (· ≠ ""), .. } : Draft) = _
    rw [kept]
    rfl
  rw [same, placeWithReport_emptied]
  exact set.placeWithReport_toDraft (set.fits_place draft) (set.place_lanes_ne_nil draft)

end LaneSet

end LaneChart
