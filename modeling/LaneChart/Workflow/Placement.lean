/-
**Placing every element in a lane.** An element whose lane exists stays where it is. Any other
goes to the lane of its role, or takes a turn when it shows none; the turn is counted by the
elements placed before it. A lane that is missing is added at the end.

* `LaneSet.base`: the lanes that exist before anything is placed.
* `LaneSet.assign`: every element with the label of the lane it was placed in, if it was placed.
* `LaneSet.place`: the workflow, and what was changed on the way.
-/

import LaneChart.Workflow.Lanes

namespace LaneChart

/-- What placement changed. -/
structure PlacementReport where
  reassigned : Nat
  fabricatedLanes : Bool
deriving DecidableEq, Repr

/-- Whether the lane of an element is one of the given lanes. -/
def Element.settledIn (lanes : List Lane) (element : Element) : Bool :=
  match element.lane with
  | some id => lanes.any (·.id == id)
  | none => false

/-- Adds a lane with a label at the end, unless there is one with its id. -/
def addMissing (lanes : List Lane) (label : LaneLabel) : List Lane :=
  if lanes.any (·.id == label.id) then lanes else lanes ++ [label.lane]

/-- A lane with the elements that stand in it as its members. -/
def Lane.gather (elements : List Element) (lane : Lane) : Lane :=
  { lane with members := (elements.filter (·.lane == some lane.id)).map (·.id) }

namespace LaneSet

/-- The lanes of a draft, or the whole set when it has none. -/
def base (set : LaneSet) (draft : Draft) : List Lane :=
  if draft.lanes.isEmpty then set.labels.map LaneLabel.lane else draft.lanes

/-- The label of the lane in which an element is placed on its turn. -/
def labelFor (set : LaneSet) (turn : Nat) (element : Element) : LaneLabel :=
  set.label ((Role.of? element).getD (.roundRobin turn))

/-- Every element with the label of the lane that it is to be placed in; none when it stays. -/
def assign (set : LaneSet) (lanes : List Lane) :
    Nat → List Element → List (Element × Option LaneLabel)
  | _, [] => []
  | turn, element :: rest =>
    if element.settledIn lanes then (element, none) :: assign set lanes turn rest
    else (element, some (set.labelFor turn element)) :: assign set lanes (turn + 1) rest

/-- An element after placement. -/
def settle : Element × Option LaneLabel → Element
  | (element, some label) => { element with lane := some label.id }
  | (element, none) => element

/-- **Places every element of a draft.** -/
def placeWithReport (set : LaneSet) (draft : Draft) : Workflow × PlacementReport :=
  let lanes := set.base draft
  let assigned := set.assign lanes 0 draft.elements
  let labels := assigned.filterMap (·.2)
  let elements := assigned.map settle
  let workflow : Workflow :=
    { id := draft.id
      elements := elements
      flows := draft.flows.getD []
      lanes := (labels.foldl addMissing lanes).map (Lane.gather elements) }
  (workflow, ⟨labels.length, draft.lanes.isEmpty⟩)

/-- The workflow that placement makes of a draft. -/
def place (set : LaneSet) (draft : Draft) : Workflow := (set.placeWithReport draft).1

end LaneSet

end LaneChart
