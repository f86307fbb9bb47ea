/-
**The desk** answers the calls of an assistant. It shares its storage with the sessions of
editors: a plan that is staged here is shown when the next session loads.

* `Desk`, `ToolAnswer`: the desk and what it answers.
* `Desk.normalizePlan`, `Desk.compilePlan`, `Desk.stagePlan`, …: what each tool does. Only
  compiling with `save` and staging touch the storage, and only after everything else has gone
  well.
* `Desk.call`: a call by the name of a tool.
-/

import LaneChart.Desk.Tool
import LaneChart.Diagram.Summary
import LaneChart.Settings.Basic
import LaneChart.Slots.Storage
import LaneChart.Workflow.Plan

namespace LaneChart

/-- **The desk** over a storage. -/
structure Desk (σ : Type) where
  settings : Settings
  storage : σ

/-- **What a call is answered.** -/
inductive ToolAnswer where
  | done (text : String)
  | failed (text : String)
deriving DecidableEq, Repr

namespace ToolAnswer

/-- The text of an answer. -/
def text : ToolAnswer → String
  | done text | failed text => text

/-- Whether an answer says that something failed. -/
def isFailure : ToolAnswer → Bool
  | done _ => false
  | failed _ => true

end ToolAnswer

namespace Desk

/-- The answer to a text that is no plan. -/
def noPlan (fault : PlanFault) : ToolAnswer := .failed s!"Invalid process plan: {fault.message}"

/-- The placement of a plan as JSON, with all keys in order. -/
def placementJson (workflow : Workflow) (report : PlacementReport) : Json :=
  (Json.object [("definition", workflow.toJson), ("reassigned", .ofNat report.reassigned),
    ("fabricatedLanes", .bool report.fabricatedLanes)]).sorted

/-- **Places the elements of a plan.** -/
def normalizePlan (settings : Settings) (plan : String) : ToolAnswer :=
  match Draft.ofPlan plan with
  | .error fault => noPlan fault
  | .ok draft =>
    let (workflow, report) := settings.lanes.placeWithReport draft
    .done (placementJson workflow report).pretty

/-- **Summarizes a document.** -/
def summarizeDocument (xml : String) : ToolAnswer :=
  match summarize xml with
  | .error fault => .failed s!"Invalid BPMN XML: {fault.message}"
  | .ok summary => .done summary.toJson.pretty

/-- **Shows the lanes.** -/
def showLanes (settings : Settings) : ToolAnswer := .done settings.lanes.toJson.pretty

variable {σ : Type}

/-- Makes a call to the storage. -/
def callStorage {α : Type} (run : StateM σ (Except StorageFault α)) :
    StateM (Desk σ) (Except StorageFault α) := fun desk =>
  let (result, storage) := run desk.storage
  (result, { desk with storage := storage })

variable [Storage σ]

/-- **Compiles a plan,** and keeps its document if asked to. -/
def compilePlan (plan : String) (save : Bool) : StateM (Desk σ) ToolAnswer := do
  match Draft.ofPlan plan with
  | .error fault => return noPlan fault
  | .ok draft =>
    let xml := (← get).settings.compile draft
    if save then
      match ← callStorage (Storage.set .diagram xml) with
      | .ok () => return .done xml
      | .error fault => return .failed s!"Compiled, but failed to store diagram: {fault.message}"
    else return .done xml

/-- **Stages a plan** for the next session. -/
def stagePlan (plan : String) : StateM (Desk σ) ToolAnswer := do
  match Draft.ofPlan plan with
  | .error fault => return noPlan fault
  | .ok draft =>
    match ← callStorage (Storage.set .pending plan) with
    | .error fault => return .failed s!"Failed to stage process: {fault.message}"
    | .ok () =>
      return .done
        (s!"Staged process with {draft.elements.length} element(s). " ++
          "It will be loaded the next time the editor opens.")

/-- **Shows the document that was kept.** -/
def showDiagram : StateM (Desk σ) ToolAnswer := do
  match ← callStorage (Storage.get .diagram) with
  | .ok (some xml) => return .done xml
  | .ok none =>
    return .failed "No diagram stored yet. Use compile_process with save=true to create one."
  | .error fault => return .failed s!"Failed to read diagram: {fault.message}"

/-- Runs a tool, unless its arguments are bad. -/
def withArguments {α : Type} (arguments : Except Json.Mismatch α)
    (run : α → StateM (Desk σ) ToolAnswer) : StateM (Desk σ) (Except ToolFault ToolAnswer) :=
  match arguments with
  | .error mismatch => return .error (.badArguments mismatch)
  | .ok arguments => do return .ok (← run arguments)

/-- A call of a tool. -/
def use (tool : Tool) (arguments : Json) : StateM (Desk σ) (Except ToolFault ToolAnswer) :=
  match tool with
  | .normalizeProcess =>
    withArguments (Arguments.text "data" arguments) fun plan => do
      return normalizePlan (← get).settings plan
  | .compileProcess =>
    withArguments (Arguments.planAndSave arguments) fun (plan, save) => compilePlan plan save
  | .summarizeBpmn =>
    withArguments (Arguments.text "xml" arguments) fun xml => return summarizeDocument xml
  | .getLanes => do return .ok (showLanes (← get).settings)
  | .stageProcess => withArguments (Arguments.text "data" arguments) stagePlan
  | .getDiagram => do return .ok (← showDiagram)

/-- **A call by the name of a tool.** -/
def call (name : String) (arguments : Json) : StateM (Desk σ) (Except ToolFault ToolAnswer) :=
  match Tool.ofName? name with
  | some tool => use tool arguments
  | none => return .error .unknownTool

end Desk

end LaneChart
