/-
**The document of a workflow.** A BPMN document has two parts: what the workflow consists of, and
where its shapes are drawn.

* `DrawingOptions`: what may be left out.
* `Workflow.definitions`: the document as a tree.
* `Workflow.document`: its text.
* `blankDocument`: the diagram that is shown when there is no better one.
-/

import LaneChart.Diagram.Geometry
import LaneChart.Markup.Node

namespace LaneChart

open Markup

/-- What a document may leave out. -/
structure DrawingOptions where
  /-- whether the lanes and their members are listed -/
  laneSet : Bool := true
deriving DecidableEq, Repr

/-- The tag of an element of a kind. Several kinds share one. -/
def ElementKind.tag : ElementKind → String
  | .startEvent => "startEvent"
  | .endEvent => "endEvent"
  | .task | .userTask | .serviceTask | .other => "task"
  | .exclusiveGateway => "exclusiveGateway"
  | .parallelGateway => "parallelGateway"
  | .intermediateCatchEvent | .intermediateThrowEvent => "intermediateCatchEvent"

/-- The id of the workflow in every document. -/
def processId : String := "Process_1"

/-- The names that the document declares for its vocabularies. -/
def vocabularies : Attributes :=
  [("xmlns:xsi", "http://www.w3.org/2001/XMLSchema-instance"),
    ("xmlns:bpmn2", "http://www.omg.org/spec/BPMN/20100524/MODEL"),
    ("xmlns:bpmndi", "http://www.omg.org/spec/BPMN/20100524/DI"),
    ("xmlns:dc", "http://www.omg.org/spec/DD/20100524/DC"),
    ("xmlns:di", "http://www.omg.org/spec/DD/20100524/DI")]

/-! ### What the workflow consists of -/

/-- A lane with a reference to every member. -/
def Lane.node (lane : Lane) : Node :=
  .block 6 "bpmn2:lane" [("id", lane.id), ("name", lane.name)]
    (lane.members.map fun member => .element "bpmn2:flowNodeRef" [] [.text member])

/-- An element. -/
def Element.node (element : Element) : Node :=
  .empty ("bpmn2:" ++ element.kind.tag) [("id", element.id), ("name", element.name)]

/-- A flow. -/
def Flow.node (flow : Flow) : Node :=
  .empty "bpmn2:sequenceFlow"
    [("id", flow.id), ("sourceRef", flow.source), ("targetRef", flow.target), ("name", flow.name)]

/-- All lanes. -/
def Workflow.laneSetNode (workflow : Workflow) : Node :=
  .block 4 "bpmn2:laneSet" [("id", "LaneSet_1")] (workflow.lanes.map Lane.node)

/-- The lanes, elements and flows. -/
def Workflow.processNode (options : DrawingOptions) (workflow : Workflow) : Node :=
  .block 2 "bpmn2:process" [("id", processId), ("isExecutable", "false")]
    ((if options.laneSet then [workflow.laneSetNode] else []) ++
      workflow.elements.map Element.node ++ workflow.flows.map Flow.node)

/-! ### Where it is drawn -/

/-- A rectangle. -/
def Bounds.node (bounds : Bounds) : Node :=
  .empty "dc:Bounds"
    [("x", toString bounds.x), ("y", toString bounds.y), ("width", toString bounds.width),
      ("height", toString bounds.height)]

/-- A point of a flow. -/
def Waypoint.node (point : Waypoint) : Node :=
  .empty "di:waypoint" [("x", toString point.x), ("y", toString point.y)]

/-- What draws the thing with an id. -/
def drawnNode (tag id : String) (parts : List Node) : Node :=
  .block 6 tag [("id", id ++ "_di"), ("bpmnElement", id)] parts

/-- The shapes of all elements and the edges of the flows that join two of them. -/
def Workflow.planeNode (workflow : Workflow) : Node :=
  .block 4 "bpmndi:BPMNPlane" [("id", "BPMNPlane_1"), ("bpmnElement", processId)]
    ((workflow.shapes.map fun (element, bounds) =>
        drawnNode "bpmndi:BPMNShape" element.id [bounds.node]) ++
      workflow.edges.map fun (flow, source, target) =>
        drawnNode "bpmndi:BPMNEdge" flow.id [source.node, target.node])

/-! ### The document -/

/-- **The document of a workflow,** as a tree. -/
def Workflow.definitions (options : DrawingOptions) (workflow : Workflow) : Node :=
  .block 0 "bpmn2:definitions"
    (vocabularies ++
      [("id", workflow.id.getD "Definitions_1"), ("targetNamespace", "http://bpmn.io/schema/bpmn")])
    [workflow.processNode options,
      .block 2 "bpmndi:BPMNDiagram" [("id", "BPMNDiagram_1")] [workflow.planeNode]]

/-- The line that every document starts with. -/
def declaration : String := "<?xml version=\"1.0\" encoding=\"UTF-8\"?>\n"

/-- **The text of the document of a workflow.** -/
def Workflow.document (options : DrawingOptions) (workflow : Workflow) : String :=
  String.ofList (declaration.toList ++ (workflow.definitions options).print ++ ['\n'])

/-- **The blank diagram:** one start event and nothing else. -/
def blankDocument : String :=
  declaration ++
  "<bpmn2:definitions xmlns:xsi=\"http://www.w3.org/2001/XMLSchema-instance\" " ++
  "xmlns:bpmn2=\"http://www.omg.org/spec/BPMN/20100524/MODEL\" " ++
  "xmlns:bpmndi=\"http://www.omg.org/spec/BPMN/20100524/DI\" " ++
  "xmlns:dc=\"http://www.omg.org/spec/DD/20100524/DC\" " ++
  "xmlns:di=\"http://www.omg.org/spec/DD/20100524/DI\" " ++
  "xsi:schemaLocation=\"http://www.omg.org/spec/BPMN/20100524/MODEL BPMN20.xsd\" " ++
  "id=\"sample-diagram\" targetNamespace=\"http://bpmn.io/schema/bpmn\">\n" ++
  "  <bpmn2:process id=\"Process_1\" isExecutable=\"false\">\n" ++
  "    <bpmn2:startEvent id=\"StartEvent_1\"/>\n" ++
  "  </bpmn2:process>\n" ++
  "  <bpmndi:BPMNDiagram id=\"BPMNDiagram_1\">\n" ++
  "    <bpmndi:BPMNPlane id=\"BPMNPlane_1\" bpmnElement=\"Process_1\">\n" ++
  "      <bpmndi:BPMNShape id=\"_BPMNShape_StartEvent_2\" bpmnElement=\"StartEvent_1\">\n" ++
  "        <dc:Bounds height=\"36.0\" width=\"36.0\" x=\"412.0\" y=\"240.0\"/>\n" ++
  "      </bpmndi:BPMNShape>\n" ++
  "    </bpmndi:BPMNPlane>\n" ++
  "  </bpmndi:BPMNDiagram>\n" ++
  "</bpmn2:definitions>\n"

end LaneChart
