/-
**The tools of the desk** are what an assistant may call: by name, with arguments that are JSON.

* `Tool`: the tools, with their names and what is said about them.
* `Arguments`: the arguments that tools take, and how they are read from a value.
* `ToolFault`: why a call does not come to pass.
-/

import LaneChart.Json.Fault

namespace LaneChart

/-- **The tools.** -/
inductive Tool where
  | normalizeProcess
  | compileProcess
  | summarizeBpmn
  | getLanes
  | stageProcess
  | getDiagram
deriving DecidableEq, Repr

namespace Tool

/-- All tools, in the order of their names. -/
def all : List Tool :=
  [compileProcess, getDiagram, getLanes, normalizeProcess, stageProcess, summarizeBpmn]

/-- The name of a tool. -/
def name : Tool → String
  | normalizeProcess => "normalize_process"
  | compileProcess => "compile_process"
  | summarizeBpmn => "summarize_bpmn"
  | getLanes => "get_lanes"
  | stageProcess => "stage_process"
  | getDiagram => "get_diagram"

/-- What is said about a tool. -/
def description : Tool → String
  | normalizeProcess =>
    "Normalize a process plan: every element gets a lane, lanes list their elements in input " ++
    "order. Elements without a valid lane are placed by name (start -> planning, complete -> " ++
    "completion, '?' -> review, develop/implement -> execution), otherwise round-robin. " ++
    "Returns \x7bdefinition, reassigned, fabricatedLanes\x7d."
  | compileProcess =>
    "Compile a process plan into BPMN 2.0 XML with diagram interchange (one row of shapes, " ++
    "straight edges). Flows whose ends do not exist keep their sequenceFlow but get no edge. " ++
    "Set save=true to store the result as the current diagram."
  | summarizeBpmn =>
    "Summarize BPMN XML as \x7bid, name, elements: [\x7btype, id, name\x7d]\x7d listing the " ++
    "direct children of the first process."
  | getLanes =>
    "Get the four configured lanes (planning, execution, review, completion) as " ++
    "\x7bid, name\x7d pairs"
  | stageProcess =>
    "Stage a process plan for the editor. The plan is validated, then picked up and compiled " ++
    "the next time a diagram session loads."
  | getDiagram => "Get the current diagram XML (last compiled, imported or saved)"

/-- The tool with a name. -/
def ofName? (name : String) : Option Tool := all.find? (·.name == name)

end Tool

/-- What is said about the desk as a whole. -/
def instructions : String :=
  "Swimlane turns process plans into BPMN 2.0 diagrams.\n\n" ++
  "A process plan is JSON: \x7b\"elements\": [\x7b\"id\", \"type\", \"name\", \"lane\"?\x7d], " ++
  "\"flows\": [\x7b\"id\", \"sourceRef\", \"targetRef\", \"name\"?\x7d], " ++
  "\"swimlanes\"?: [\x7b\"id\", \"name\"\x7d]\x7d.\n" ++
  "Element types: startEvent, endEvent, task, userTask, serviceTask, exclusiveGateway, " ++
  "parallelGateway, intermediateCatchEvent, intermediateThrowEvent. " ++
  "User and service tasks, and anything unrecognized, are drawn as plain tasks.\n\n" ++
  "## Workflow\n" ++
  "1. Draft the plan. Lanes are optional; call get_lanes to see the four default lanes.\n" ++
  "2. Call normalize_process to check lane placement.\n" ++
  "3. Call compile_process for the XML, or stage_process to hand the plan to the editor."

/-- **Why a call does not come to pass.** -/
inductive ToolFault where
  | unknownTool
  | badArguments (mismatch : Json.Mismatch)
deriving DecidableEq, Repr

/-- How it is said that a call does not come to pass. -/
def ToolFault.message : ToolFault → String
  | .unknownTool => "tool not found"
  | .badArguments mismatch => s!"failed to deserialize parameters: {mismatch.message}"

namespace Arguments

open Json

/-- The text under a key. -/
def text? (key : String) (arguments : Json) : Except Mismatch (Option String) :=
  match arguments.get? key with
  | none => .ok none
  | some (.text value) => .ok (some value)
  | some other => .error (.wrongType (.of other) .text)

/-- The truth value under a key; null counts as none. -/
def flag? (key : String) (arguments : Json) : Except Mismatch (Option Bool) :=
  match arguments.get? key with
  | none | some .null => .ok none
  | some (.bool value) => .ok (some value)
  | some other => .error (.wrongType (.of other) .flag)

/-- The text under a key that has to be there. -/
def text (key : String) (arguments : Json) : Except Mismatch String := do
  match ← text? key arguments with
  | some value => return value
  | none => throw (.missingField key)

/-- A plan, and whether its document is to be kept. A value of the wrong kind is noticed before a
plan that is missing. -/
def planAndSave (arguments : Json) : Except Mismatch (String × Bool) := do
  let plan ← text? "data" arguments
  let save ← flag? "save" arguments
  match plan with
  | some plan => return (plan, save.getD false)
  | none => throw (.missingField "data")

end Arguments

end LaneChart
