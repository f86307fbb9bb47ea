/-
**Notices, selections and patches as JSON.** Each type has a printed form, `toJson`, and a
`record` by which it is read back. A patch leaves out what it does not change.

* `ImportReport`: what an editor says after it has shown a document.
-/

import LaneChart.Record.Reader
import LaneChart.Session.Canvas
import LaneChart.Session.NoticeBoard

namespace LaneChart

open Record

/-! ### Notices -/

/-- A notice that is being read. -/
structure Notice.Partial where
  id : Option String := none
  message : Option String := none
  kind : Option NoticeKind := none
  durationMs : Option UInt64 := none

namespace Notice

/-- How a notice is read. -/
def record : Layout Notice.Partial Notice where
  name := "Notification"
  fields :=
    [.of "id" readString (·.id) (fun part id => { part with id := some id }) false,
      .of "message" readString (·.message)
        (fun part message => { part with message := some message }) false,
      .of "type" (readChoice NoticeKind.named) (·.kind)
        (fun part kind => { part with kind := some kind }) false,
      .of "durationMs" readCount (·.durationMs)
        (fun part durationMs => { part with durationMs := some durationMs }) false]
  start := {}
  finish := fun part => do
    return ⟨← needed "id" part.id, ← needed "message" part.message, ← needed "type" part.kind,
      ← needed "durationMs" part.durationMs⟩

/-- A notice as JSON. -/
def toJson (notice : Notice) : Json :=
  .object [("id", .text notice.id), ("message", .text notice.message),
    ("type", .text notice.kind.name), ("durationMs", .ofNat notice.durationMs.toNat)]

end Notice

/-! ### Selections and patches -/

/-- A selection that is being read. -/
structure Selection.Partial where
  id : Option String := none
  name : Option String := none
  typeName : Option String := none
  documentation : Option String := none

namespace Selection

/-- How a selection is read. -/
def record : Layout Selection.Partial Selection where
  name := "SelectedElement"
  fields :=
    [.of "id" readString (·.id) (fun part id => { part with id := some id }) false,
      .of "name" readString (·.name) (fun part name => { part with name := some name }) false,
      .of "type" readString (·.typeName)
        (fun part typeName => { part with typeName := some typeName }) false,
      .of "documentation" readString (·.documentation)
        (fun part documentation => { part with documentation := some documentation }) true]
  start := {}
  finish := fun part => do
    return ⟨← needed "id" part.id, ← needed "name" part.name, ← needed "type" part.typeName,
      part.documentation.getD ""⟩

/-- A selection as JSON. -/
def toJson (selection : Selection) : Json :=
  .object [("id", .text selection.id), ("name", .text selection.name),
    ("type", .text selection.typeName), ("documentation", .text selection.documentation)]

end Selection

/-- A patch that is being read. -/
structure Patch.Partial where
  name : Option (Option String) := none
  id : Option (Option String) := none

namespace Patch

/-- How a patch is read. -/
def record : Layout Patch.Partial Patch where
  name := "ElementPatch"
  fields :=
    [.of "name" (readOptional readString) (·.name)
        (fun part name => { part with name := some name }) true,
      .of "id" (readOptional readString) (·.id) (fun part id => { part with id := some id }) true]
  start := {}
  finish := fun part => .ok ⟨part.name.getD none, part.id.getD none⟩

/-- A patch as JSON. -/
def toJson (patch : Patch) : Json :=
  .object <| (patch.name.map fun name => ("name", Json.text name)).toList ++
    (patch.id.map fun id => ("id", Json.text id)).toList

end Patch

/-! ### Reports -/

/-- **What an editor says after it has shown a document.** -/
structure ImportReport where
  warnings : List String := []
deriving DecidableEq, Repr

/-- A report that is being read. -/
structure ImportReport.Partial where
  warnings : Option (List String) := none

namespace ImportReport

/-- How a report is read. -/
def record : Layout ImportReport.Partial ImportReport where
  name := "ImportOutcome"
  fields :=
    [.of "warnings" (readList readString) (·.warnings)
      (fun part warnings => { part with warnings := some warnings }) true]
  start := {}
  finish := fun part => .ok ⟨part.warnings.getD []⟩

/-- A report as JSON. -/
def toJson (report : ImportReport) : Json := .object [("warnings", .ofTexts report.warnings)]

end ImportReport

end LaneChart
