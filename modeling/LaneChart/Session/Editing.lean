/-
**Working on a document.**

* `Session.save`, `Session.exportXml`, `Session.jsonView`: what is on the canvas, kept in the
  storage, handed out, or summarized.
* `Session.updateSelected`, `Session.createShape`: commands to the canvas. The selection follows a
  change of its own id.
* `Session.handle`, `Session.pump`: what the canvas reported, taken note of in order.
-/

import LaneChart.Session.Basic

namespace LaneChart

namespace Session

variable {σ : Type}

/-- An operation that the canvas refuses is reported and changes nothing else. -/
def refuse {α : Type} (message : String) (fault : CanvasFault) : Run σ (Except SessionFault α) := do
  inform .error message
  return .error (.canvas fault)

/-- **Hands out the document on the canvas.** -/
def exportXml : Run σ (Except SessionFault String) := do
  match (← get).canvas.saveXml with
  | .ok xml =>
    enter .exported
    inform .success "Diagram exported successfully"
    return .ok xml
  | .error fault => refuse "Failed to export diagram" fault

/-- **The summary of the document on the canvas.** -/
def jsonView : Run σ (Except SessionFault Summary) := do
  match (← get).canvas.saveXml with
  | .error fault => return .error (.canvas fault)
  | .ok xml => return (summarize xml).mapError .summary

/-- Keeps a document and the time of the save. The time is not kept when the document could not
be. -/
def keepSaved [Storage σ] (xml stamp : String) : Run σ (Except StorageFault Unit) := do
  match ← callStorage (Storage.set .diagram xml) with
  | .error fault => return .error fault
  | .ok () => callStorage (Storage.set .timestamp stamp)

/-- **Keeps the document on the canvas,** with the time of the save. -/
def save [Storage σ] (stamp : String) : Run σ (Except SessionFault String) := do
  match (← get).canvas.saveXml with
  | .error fault => refuse "Failed to save diagram" fault
  | .ok xml =>
    match ← keepSaved xml stamp with
    | .ok () =>
      enter .saved
      inform .success "Diagram saved successfully!"
    | .error fault => inform .error s!"Failed to save diagram: {fault.message}"
    return .ok xml

/-- Carries out a command that gives the canvas another state. -/
def command {α : Type} (run : Canvas → Except CanvasFault (α × Canvas)) :
    Run σ (Except CanvasFault α) := fun session =>
  match run session.canvas with
  | .ok (result, canvas) => (.ok result, { session with canvas := canvas })
  | .error fault => (.error fault, session)

/-- A patch without an id that is the same as before. -/
def reduced (id : String) (patch : Patch) : Patch :=
  if patch.id = some id then { patch with id := none } else patch

/-- Sends a patch to the canvas unless it changes nothing. -/
def send (id : String) (patch : Patch) : Run σ (Except CanvasFault Unit) :=
  if patch.isEmpty then return .ok ()
  else command fun canvas => (canvas.updateProperties id patch).map fun changed => ((), changed)

/-- **Changes the selected element,** and gives back whether there is one. -/
def updateSelected (patch : Patch) : Run σ (Except SessionFault Bool) := do
  match (← get).selected with
  | none => return .ok false
  | some selection =>
    let patch := reduced selection.id patch
    match ← send selection.id patch with
    | .error fault => refuse "Failed to update element properties" fault
    | .ok () =>
      modify fun session => { session with selected := some (selection.apply patch) }
      inform .success "Element properties updated"
      return .ok true

/-- What the tool for a kind of element is called; some kinds have none. -/
def toolFor? : ElementKind → Option String
  | .startEvent => some "Start Event"
  | .endEvent => some "End Event"
  | .intermediateCatchEvent | .intermediateThrowEvent => some "Intermediate Event"
  | .task | .userTask | .serviceTask => some "Task"
  | .exclusiveGateway => some "Exclusive Gateway"
  | .parallelGateway => some "Parallel Gateway"
  | .other => none

/-- How many milliseconds the hint stays that a tool is active. -/
def toolHintMs : UInt64 := 2000

/-- **Puts a new shape on the canvas,** if there is a tool for it, and gives back its id. -/
def createShape (kind : ElementKind) : Run σ (Except SessionFault (Option String)) := do
  match toolFor? kind with
  | none =>
    inform .warning "Tool not available"
    return .ok none
  | some tool =>
    match ← command (Canvas.createShape kind) with
    | .error fault => refuse "Tool activation failed" fault
    | .ok id =>
      modify fun session =>
        { session with
          board :=
            (session.board.push .success s!"{tool} tool activated - click to place" toolHintMs).2 }
      return .ok (some id)

/-! ### Events -/

/-- The session after an event. -/
def afterEvent (session : Session σ) : CanvasEvent → Session σ
  | .selectionChanged selection => { session with selected := selection }
  | .commandRun =>
    if session.phase.showsDocument then { session with phase := .modified } else session

/-- Takes note of an event. -/
def handle (event : CanvasEvent) : Run σ Unit := modify (·.afterEvent event)

/-- **Takes note of all events that wait,** in order, and gives back how many there were. -/
def pump : Run σ Nat := fun session =>
  let events := session.canvas.waiting
  let noted := events.foldl afterEvent session
  (events.length, { noted with canvas := { noted.canvas with outbox := [] } })

end Session

end LaneChart
