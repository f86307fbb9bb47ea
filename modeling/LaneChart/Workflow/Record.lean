/-
**Workflows and lane sets as JSON.** Every type here has a printed form, `toJson`, with its
members in the order of the fields, and a `record` by which it is read back. A lane set fills in
its own labels for the ones that are missing.
-/

import LaneChart.Workflow.Lanes
import LaneChart.Record.Reader

namespace LaneChart

open Json Record

/-! ### Lane sets -/

/-- A label that is being read. -/
structure LaneLabel.Partial where
  id : Option String := none
  name : Option String := none

namespace LaneLabel

/-- How a label is read. -/
def record : Layout LaneLabel.Partial LaneLabel where
  name := "LaneSpec"
  fields :=
    [.of "id" readString (·.id) (fun part id => { part with id := some id }) false,
      .of "name" readString (·.name) (fun part name => { part with name := some name }) false]
  start := {}
  finish := fun part => do return ⟨← needed "id" part.id, ← needed "name" part.name⟩

/-- A label as JSON. -/
def toJson (label : LaneLabel) : Json :=
  .object [("id", .text label.id), ("name", .text label.name)]

end LaneLabel

/-- A lane set that is being read. -/
structure LaneSet.Partial where
  planning : Option LaneLabel := none
  execution : Option LaneLabel := none
  review : Option LaneLabel := none
  completion : Option LaneLabel := none

namespace LaneSet

/-- How a lane set is read. -/
def record : Layout LaneSet.Partial LaneSet where
  name := "LaneSet"
  fields :=
    [.of "planning" LaneLabel.record.read (·.planning)
        (fun part label => { part with planning := some label }) true,
      .of "execution" LaneLabel.record.read (·.execution)
        (fun part label => { part with execution := some label }) true,
      .of "review" LaneLabel.record.read (·.review)
        (fun part label => { part with review := some label }) true,
      .of "completion" LaneLabel.record.read (·.completion)
        (fun part label => { part with completion := some label }) true]
  start := {}
  finish := fun part =>
    let standard : LaneSet := {}
    .ok { planning := part.planning.getD standard.planning
          execution := part.execution.getD standard.execution
          review := part.review.getD standard.review
          completion := part.completion.getD standard.completion }

/-- A lane set as JSON. -/
def toJson (set : LaneSet) : Json :=
  .object [("planning", set.planning.toJson), ("execution", set.execution.toJson),
    ("review", set.review.toJson), ("completion", set.completion.toJson)]

end LaneSet

/-! ### Workflows -/

/-- An element that is being read. -/
structure Element.Partial where
  id : Option String := none
  typeName : Option String := none
  name : Option String := none
  lane : Option (Option String) := none

namespace Element

/-- How an element is read. A lane may be missing from an object, but not from a list. -/
def record : Layout Element.Partial Element where
  name := "ProcessElement"
  fields :=
    [.of "id" readString (·.id) (fun part id => { part with id := some id }) false,
      .of "type" readString (·.typeName)
        (fun part typeName => { part with typeName := some typeName }) false,
      .of "name" readString (·.name) (fun part name => { part with name := some name }) false,
      .of "lane" (readOptional readString) (·.lane)
        (fun part lane => { part with lane := some lane }) false]
  start := {}
  finish := fun part => do
    return ⟨← needed "id" part.id, ← needed "type" part.typeName, ← needed "name" part.name,
      part.lane.getD none⟩

/-- An element as JSON. -/
def toJson (element : Element) : Json :=
  .object [("id", .text element.id), ("type", .text element.typeName), ("name", .text element.name),
    ("lane", .ofText? element.lane)]

end Element

/-- A flow that is being read. -/
structure Flow.Partial where
  id : Option String := none
  source : Option String := none
  target : Option String := none
  name : Option String := none

namespace Flow

/-- How a flow is read. -/
def record : Layout Flow.Partial Flow where
  name := "SequenceFlow"
  fields :=
    [.of "id" readString (·.id) (fun part id => { part with id := some id }) false,
      .of "sourceRef" readString (·.source)
        (fun part source => { part with source := some source }) false,
      .of "targetRef" readString (·.target)
        (fun part target => { part with target := some target }) false,
      .of "name" readString (·.name) (fun part name => { part with name := some name }) false]
  start := {}
  finish := fun part => do
    return ⟨← needed "id" part.id, ← needed "sourceRef" part.source,
      ← needed "targetRef" part.target, ← needed "name" part.name⟩

/-- A flow as JSON. -/
def toJson (flow : Flow) : Json :=
  .object [("id", .text flow.id), ("sourceRef", .text flow.source),
    ("targetRef", .text flow.target), ("name", .text flow.name)]

end Flow

/-- A lane that is being read. -/
structure Lane.Partial where
  id : Option String := none
  name : Option String := none
  members : Option (List String) := none

namespace Lane

/-- How a lane is read. -/
def record : Layout Lane.Partial Lane where
  name := "Swimlane"
  fields :=
    [.of "id" readString (·.id) (fun part id => { part with id := some id }) false,
      .of "name" readString (·.name) (fun part name => { part with name := some name }) false,
      .of "elements" (readList readString) (·.members)
        (fun part members => { part with members := some members }) true]
  start := {}
  finish := fun part => do
    return ⟨← needed "id" part.id, ← needed "name" part.name, part.members.getD []⟩

/-- A lane as JSON. -/
def toJson (lane : Lane) : Json :=
  .object [("id", .text lane.id), ("name", .text lane.name), ("elements", .ofTexts lane.members)]

end Lane

/-- A workflow that is being read. -/
structure Workflow.Partial where
  id : Option (Option String) := none
  elements : Option (List Element) := none
  flows : Option (List Flow) := none
  lanes : Option (List Lane) := none

namespace Workflow

/-- How a workflow is read. -/
def record : Layout Workflow.Partial Workflow where
  name := "ProcessDefinition"
  fields :=
    [.of "id" (readOptional readString) (·.id) (fun part id => { part with id := some id }) true,
      .of "elements" (readList Element.record.read) (·.elements)
        (fun part elements => { part with elements := some elements }) false,
      .of "flows" (readList Flow.record.read) (·.flows)
        (fun part flows => { part with flows := some flows }) false,
      .of "swimlanes" (readList Lane.record.read) (·.lanes)
        (fun part lanes => { part with lanes := some lanes }) false]
  start := {}
  finish := fun part => do
    return ⟨part.id.getD none, ← needed "elements" part.elements, ← needed "flows" part.flows,
      ← needed "swimlanes" part.lanes⟩

/-- A workflow as JSON; an id that is absent is left out. -/
def toJson (workflow : Workflow) : Json :=
  .object <| (workflow.id.map fun id => ("id", Json.text id)).toList ++
    [("elements", .list (workflow.elements.map Element.toJson)),
      ("flows", .list (workflow.flows.map Flow.toJson)),
      ("swimlanes", .list (workflow.lanes.map Lane.toJson))]

end Workflow

end LaneChart
