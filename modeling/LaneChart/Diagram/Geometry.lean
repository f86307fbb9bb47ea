/-
**Where elements are drawn.** Elements stand in one row, in the order of the workflow, and the
kind of an element says how large it is.

* `Bounds`: the rectangle of a shape.
* `Workflow.bounds`: the rectangles of all elements.
* `Bounds.departure`, `Bounds.arrival`: where a flow leaves a shape and where it ends.
-/

import LaneChart.Workflow.Basic

namespace LaneChart

/-- **The rectangle of a shape.** -/
structure Bounds where
  x : Nat
  y : Nat
  width : Nat
  height : Nat
deriving DecidableEq, Repr

/-- A point of a flow. -/
structure Waypoint where
  x : Nat
  y : Nat
deriving DecidableEq, Repr

namespace Bounds

/-- Where a flow leaves a shape. -/
def departure (bounds : Bounds) : Waypoint := ⟨bounds.x + 50, bounds.y + 40⟩

/-- Where a flow reaches a shape. -/
def arrival (bounds : Bounds) : Waypoint := ⟨bounds.x, bounds.y + 40⟩

end Bounds

/-- The width and the height of the shape of an element. -/
def ElementKind.size (kind : ElementKind) : Nat × Nat :=
  if kind.isBoundary then (36, 36) else if kind.isGateway then (50, 50) else (100, 80)

/-- The rectangle of the element at a position. -/
def Element.boundsAt (position : Nat) (element : Element) : Bounds :=
  ⟨100 + 200 * position, 150, element.kind.size.1, element.kind.size.2⟩

namespace Workflow

/-- The rectangles of elements that start at a position. -/
def boundsFrom : Nat → List Element → List Bounds
  | _, [] => []
  | position, element :: rest => element.boundsAt position :: boundsFrom (position + 1) rest

/-- **The rectangles of all elements.** -/
def bounds (workflow : Workflow) : List Bounds := boundsFrom 0 workflow.elements

/-- Every element with its rectangle. -/
def shapes (workflow : Workflow) : List (Element × Bounds) := workflow.elements.zip workflow.bounds

/-- The rectangle of the first element with an id. -/
def boundsOf? (workflow : Workflow) (id : String) : Option Bounds :=
  (workflow.shapes.find? (·.1.id == id)).map (·.2)

/-- The flows that join two elements of the workflow, each with the points where it starts and
ends. -/
def edges (workflow : Workflow) : List (Flow × Waypoint × Waypoint) :=
  workflow.flows.filterMap fun flow =>
    match workflow.boundsOf? flow.source, workflow.boundsOf? flow.target with
    | some source, some target => some (flow, source.departure, target.arrival)
    | _, _ => none

end Workflow

end LaneChart
