/-
**Talking to an assistant.** Requests and replies are JSON objects, one a line. A request with an
`id` gets a reply with the same one; a request without is only taken note of.

* `Tool.parameters`: which arguments a tool takes, as a schema.
* `Desk.reply?`: the reply to a request.
-/

import LaneChart.Desk.Basic

namespace LaneChart

/-- An argument that is a text, with what is said about it. -/
def textParameter (name description : String) : String × Json :=
  (name, .object [("type", .text "string"), ("description", .text description)])

/-- The plan that several tools take. -/
def planParameter : String × Json := textParameter "data" "Process plan as JSON"

/-- **Which arguments a tool takes,** and which of them have to be there. -/
def Tool.parameters (tool : Tool) : Json :=
  let (properties, required) : List (String × Json) × List String :=
    match tool with
    | .normalizeProcess | .stageProcess => ([planParameter], ["data"])
    | .compileProcess =>
      ([planParameter, ("save", .object [("type", .ofTexts ["boolean", "null"])])], ["data"])
    | .summarizeBpmn => ([textParameter "xml" "BPMN 2.0 XML document"], ["xml"])
    | .getLanes | .getDiagram => ([], [])
  .object [("type", .text "object"), ("properties", .object properties),
    ("required", .ofTexts required)]

/-- How a tool is listed. -/
def Tool.listing (tool : Tool) : Json :=
  .object [("name", .text tool.name), ("description", .text tool.description),
    ("inputSchema", tool.parameters)]

/-- A reply that says that a request went wrong. -/
def errorReply (id : Json) (code : Int) (message : String) : Json :=
  .object [("jsonrpc", .text "2.0"), ("id", id),
    ("error", .object [("code", .number (.whole code)), ("message", .text message)])]

/-- A reply with a result. -/
def resultReply (id result : Json) : Json :=
  .object [("jsonrpc", .text "2.0"), ("id", id), ("result", result)]

/-- An answer of a tool as a result. -/
def ToolAnswer.toJson (answer : ToolAnswer) : Json :=
  .object
    [("content", .list [.object [("type", .text "text"), ("text", .text answer.text)]]),
      ("isError", .bool answer.isFailure)]

namespace Desk

/-- What the desk says about itself. -/
def greeting (parameters : Json) : Json :=
  .object
    [("protocolVersion", (parameters.get? "protocolVersion").getD (.text "2025-06-18")),
      ("capabilities", .object [("tools", .object [])]),
      ("serverInfo", .object [("name", .text "lanechart"), ("version", .text "1")]),
      ("instructions", .text instructions)]

variable {σ : Type} [Storage σ]

/-- The reply to a call of a tool. -/
def callReply (id parameters : Json) : StateM (Desk σ) Json := do
  let name := ((parameters.get? "name").bind Json.text?).getD ""
  match ← call name ((parameters.get? "arguments").getD (.object [])) with
  | .ok answer => return resultReply id answer.toJson
  | .error fault => return errorReply id (-32602) fault.message

/-- **The reply to a request,** if it wants one. -/
def reply? (request : Json) : StateM (Desk σ) (Option Json) := do
  match request.get? "id" with
  | none => return none
  | some id =>
    let parameters := (request.get? "params").getD (.object [])
    match (request.get? "method").bind Json.text? with
    | some "initialize" => return some (resultReply id (greeting parameters))
    | some "ping" => return some (resultReply id (.object []))
    | some "tools/list" =>
      return some (resultReply id (.object [("tools", .list (Tool.all.map Tool.listing))]))
    | some "tools/call" => return some (← callReply id parameters)
    | _ => return some (errorReply id (-32601) "method not found")

end Desk

end LaneChart
