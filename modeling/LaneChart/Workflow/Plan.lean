/-
**Reading a plan.** A plan is a text that holds a draft as JSON, perhaps with prose around it.
Whatever in the JSON does not look like a draft is passed over, so every object gives one.

* `Draft.ofJson`: the draft in a value.
* `PlanFault`: why a text is no plan.
* `Draft.ofPlan`: the draft in a text. Prose is looked through only when the whole text is not
  JSON.
-/

import LaneChart.Json.Reader
import LaneChart.Workflow.Basic
import LaneChart.Text.Search

namespace LaneChart

namespace Draft

/-- A field as text: numbers and truth values are written out, everything else is empty. -/
def textOf : Option Json → String
  | some (.text text) => text
  | some (.number number) => number.text
  | some (.bool true) => "true"
  | some (.bool false) => "false"
  | _ => ""

/-- The objects in a list; a value that is not a list holds none. -/
def objectsIn (value : Option Json) : List Json :=
  ((value.bind Json.items?).getD []).filter Json.isObject

/-- The element that an object describes. -/
def elementOf (value : Json) : Element where
  id := textOf (value.get? "id")
  typeName := textOf (value.get? "type")
  name := textOf (value.get? "name")
  lane := (value.get? "lane").bind Json.text?

/-- The flow that an object describes. -/
def flowOf (value : Json) : Flow where
  id := textOf (value.get? "id")
  source := textOf (value.get? "sourceRef")
  target := textOf (value.get? "targetRef")
  name := textOf (value.get? "name")

/-- The lane that an object describes; members are not read. -/
def laneOf (value : Json) : Lane where
  id := textOf (value.get? "id")
  name := textOf (value.get? "name")
  members := []

/-- The part of a value that holds the draft: the object under `definitions`, or else all of
it. -/
def rootOf (value : Json) : Json :=
  match value.get? "definitions" with
  | some (.object members) => .object members
  | _ => value

/-- **The draft in a value.** An empty id counts as none. -/
def ofJson (value : Json) : Draft :=
  let root := rootOf value
  { id := ((root.get? "id").bind Json.text?).filter (· ≠ "")
    elements := (objectsIn (root.get? "elements")).map elementOf
    flows := (root.get? "flows").map fun flows => (objectsIn (some flows)).map flowOf
    lanes := (objectsIn (root.get? "swimlanes")).map laneOf }

end Draft

/-- **Why a text is no plan.** -/
inductive PlanFault where
  | notJson (rejection : Json.Rejection)
  | notAnObject
deriving DecidableEq, Repr

/-- How it is said that a text is no plan. -/
def PlanFault.message : PlanFault → String
  | .notJson rejection => s!"process JSON could not be parsed: {rejection.message}"
  | .notAnObject => "process JSON must be an object"

/-- The value in a text, or in the span between its outermost braces. When there is no span, the
fault of the whole text stands. -/
def jsonInProse (text : List Char) : Except PlanFault Json :=
  match Json.readChars (Json.readValue Json.nestingLimit) text with
  | .ok value => .ok value
  | .error rejection =>
    match Text.braceSpan? text with
    | none => .error (.notJson rejection)
    | some span =>
      match Json.readChars (Json.readValue Json.nestingLimit) span with
      | .ok value => .ok value
      | .error rejection => .error (.notJson rejection)

/-- **The draft in a text.** -/
def Draft.ofPlan (text : String) : Except PlanFault Draft := do
  let value ← jsonInProse text.toList
  if value.isObject then return .ofJson value else throw .notAnObject

end LaneChart
