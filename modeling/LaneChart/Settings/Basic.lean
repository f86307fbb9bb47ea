/-
**Settings.** They name the lanes that elements are placed in, say whether documents list them,
and how long notices stay. Whatever a settings file leaves out has its standard value.

* `Settings`: the settings.
* `Settings.compile`: the document of a draft under the settings.
* `Settings.record`, `Settings.toJson`: how they are read and printed.
-/

import LaneChart.Diagram.Document
import LaneChart.Workflow.Placement
import LaneChart.Workflow.Record

namespace LaneChart

/-- **The settings.** -/
structure Settings where
  lanes : LaneSet := {}
  /-- whether documents list the lanes -/
  emitLaneSet : Bool := true
  /-- how many milliseconds a notice stays; a notice with zero stays until it is dismissed -/
  notificationMs : UInt64 := 5000
deriving DecidableEq, Repr

namespace Settings

/-- What documents leave out. -/
def drawing (settings : Settings) : DrawingOptions := ⟨settings.emitLaneSet⟩

/-- **The document of a draft,** whose elements are placed first. -/
def compile (settings : Settings) (draft : Draft) : String :=
  (settings.lanes.place draft).document settings.drawing

end Settings

/-! ### As JSON -/

open Record

/-- Drawing options that are being read. -/
structure DrawingOptions.Partial where
  laneSet : Option Bool := none

/-- How drawing options are read. -/
def DrawingOptions.record : Layout DrawingOptions.Partial DrawingOptions where
  name := "CompileOptions"
  fields :=
    [.of "emitLaneSet" readFlag (·.laneSet)
      (fun part laneSet => { part with laneSet := some laneSet }) true]
  start := {}
  finish := fun part => .ok ⟨part.laneSet.getD true⟩

/-- Drawing options as JSON. -/
def DrawingOptions.toJson (options : DrawingOptions) : Json :=
  .object [("emitLaneSet", .bool options.laneSet)]

/-- Settings that are being read. -/
structure Settings.Partial where
  lanes : Option LaneSet := none
  emitLaneSet : Option Bool := none
  notificationMs : Option UInt64 := none

namespace Settings

/-- How settings are read. -/
def record : Layout Settings.Partial Settings where
  name := "Settings"
  fields :=
    [.of "lanes" LaneSet.record.read (·.lanes) (fun part lanes => { part with lanes := some lanes })
        true,
      .of "emitLaneSet" readFlag (·.emitLaneSet)
        (fun part emitLaneSet => { part with emitLaneSet := some emitLaneSet }) true,
      .of "notificationMs" readCount (·.notificationMs)
        (fun part notificationMs => { part with notificationMs := some notificationMs }) true]
  start := {}
  finish := fun part =>
    let standard : Settings := {}
    .ok { lanes := part.lanes.getD standard.lanes
          emitLaneSet := part.emitLaneSet.getD standard.emitLaneSet
          notificationMs := part.notificationMs.getD standard.notificationMs }

/-- Settings as JSON. -/
def toJson (settings : Settings) : Json :=
  .object [("lanes", settings.lanes.toJson), ("emitLaneSet", .bool settings.emitLaneSet),
    ("notificationMs", .ofNat settings.notificationMs.toNat)]

/-- Settings in a text. -/
def ofText (text : String) : Except Json.Rejection Settings := Json.readText record.read text

end Settings

end LaneChart
