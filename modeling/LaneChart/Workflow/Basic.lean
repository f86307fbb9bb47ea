/-
**Workflows.** A workflow has elements that stand in lanes and flows that join elements. It comes
in two forms: a draft is what somebody wrote down, in which nothing has to fit together, and a
workflow proper is what placement makes of it (`Workflow.Placement`).

* `ElementKind`: the kinds of elements that are told apart.
* `Element`, `Flow`, `Lane`: the parts.
* `Draft`, `Workflow`: the two forms; `Workflow.toDraft` takes a workflow as a draft again.
-/

namespace LaneChart

/-- **The kinds of elements.** -/
inductive ElementKind where
  | startEvent
  | endEvent
  | task
  | userTask
  | serviceTask
  | exclusiveGateway
  | parallelGateway
  | intermediateCatchEvent
  | intermediateThrowEvent
  | other
deriving DecidableEq, Repr

namespace ElementKind

/-- Every kind with its name. -/
def named : List (String × ElementKind) :=
  [("startEvent", .startEvent), ("endEvent", .endEvent), ("task", .task), ("userTask", .userTask),
    ("serviceTask", .serviceTask), ("exclusiveGateway", .exclusiveGateway),
    ("parallelGateway", .parallelGateway), ("intermediateCatchEvent", .intermediateCatchEvent),
    ("intermediateThrowEvent", .intermediateThrowEvent), ("other", .other)]

/-- The kind with a name; a name that is not known means a kind that is not drawn specially. -/
def ofName (name : String) : ElementKind := (named.lookup name).getD .other

/-- The name of a kind. -/
def name : ElementKind → String
  | startEvent => "startEvent"
  | endEvent => "endEvent"
  | task => "task"
  | userTask => "userTask"
  | serviceTask => "serviceTask"
  | exclusiveGateway => "exclusiveGateway"
  | parallelGateway => "parallelGateway"
  | intermediateCatchEvent => "intermediateCatchEvent"
  | intermediateThrowEvent => "intermediateThrowEvent"
  | other => "other"

/-- Whether a workflow starts or ends there. -/
def isBoundary : ElementKind → Bool
  | startEvent | endEvent => true
  | _ => false

/-- Whether flows part or meet there. -/
def isGateway : ElementKind → Bool
  | exclusiveGateway | parallelGateway => true
  | _ => false

end ElementKind

/-- **An element.** Its type is kept as it was written; `Element.kind` says what it means. -/
structure Element where
  id : String
  typeName : String
  name : String
  lane : Option String
deriving DecidableEq, Repr

/-- What the type of an element means. -/
def Element.kind (element : Element) : ElementKind := .ofName element.typeName

/-- **A flow** from one element to another, both named by their ids. -/
structure Flow where
  id : String
  source : String
  target : String
  name : String
deriving DecidableEq, Repr

/-- **A lane** with the ids of the elements that stand in it. -/
structure Lane where
  id : String
  name : String
  members : List String
deriving DecidableEq, Repr

/-- **A workflow as it was written down.** Flows may be absent, lanes may be unknown to the
elements that name them, and ids may be empty or repeated. -/
structure Draft where
  id : Option String
  elements : List Element
  flows : Option (List Flow)
  lanes : List Lane
deriving DecidableEq, Repr

/-- **A workflow** in which every lane lists its members. -/
structure Workflow where
  id : Option String
  elements : List Element
  flows : List Flow
  lanes : List Lane
deriving DecidableEq, Repr

namespace Workflow

/-- A workflow taken as a draft again. -/
def toDraft (workflow : Workflow) : Draft :=
  ⟨workflow.id, workflow.elements, some workflow.flows, workflow.lanes⟩

/-- The first lane with an id. -/
def lane? (workflow : Workflow) (id : String) : Option Lane :=
  workflow.lanes.find? (·.id == id)

/-- The first element with an id. -/
def element? (workflow : Workflow) (id : String) : Option Element :=
  workflow.elements.find? (·.id == id)

end Workflow

end LaneChart
