/-
**Showing a document.** Each of the four operations here ends with a document on the canvas and
nothing selected, or says that not even the template could be shown.

* `Session.load`: the plan that waits, or else the document that was kept, or else the template.
* `Session.createNew`: the template.
* `Session.importProcess`: the document of a plan.
* `Session.importDiagram`: a document as it is.
-/

import LaneChart.Session.Basic
import LaneChart.Workflow.Plan

namespace LaneChart

/-- Why the document of a plan cannot be shown. -/
inductive Refusal where
  | plan (fault : PlanFault)
  | canvas (fault : CanvasFault)
deriving DecidableEq, Repr

/-- How it is said that the document of a plan cannot be shown. -/
def Refusal.message : Refusal → String
  | .plan fault => fault.message
  | .canvas fault => fault.message

namespace Session

variable {σ : Type}

/-- Shows a document. -/
def «show» (xml : String) : Run σ (Except CanvasFault Unit) := fun session =>
  match session.canvas.importXml xml with
  | .ok canvas => (.ok (), { session with canvas := canvas })
  | .error fault => (.error fault, session)

/-- The document is there, and nothing in it is selected. -/
def settle : Run σ Phase := fun session =>
  (.ready, { session with phase := .ready, selected := none })

/-- Shows the template. -/
def loadTemplate : Run σ (Except SessionFault Phase) := do
  enter .loading
  match ← «show» (← get).template with
  | .ok () => return .ok (← settle)
  | .error fault => return .error (.templateRejected fault)

/-- Shows the document of a plan, and gives back the document. -/
def showPlan (plan : String) : Run σ (Except Refusal String) := do
  match Draft.ofPlan plan with
  | .error fault => return .error (.plan fault)
  | .ok draft =>
    let xml := (← get).settings.compile draft
    match ← «show» xml with
    | .ok () => return .ok xml
    | .error fault => return .error (.canvas fault)

/-- **Shows the template in place of whatever is shown.** -/
def createNew : Run σ (Except SessionFault Phase) := do
  match ← loadTemplate with
  | .ok phase =>
    inform .success "New diagram created"
    return .ok phase
  | .error fault => return .error fault

/-- **Shows a document as it is.** -/
def importDiagram (xml : String) : Run σ (Except SessionFault Phase) := do
  enter .loading
  match ← «show» xml with
  | .ok () =>
    inform .success "Diagram imported successfully"
    return .ok (← settle)
  | .error _ =>
    inform .warning
      ("Failed to import diagram. Please check the file format. " ++
        "A blank diagram was loaded instead")
    loadTemplate

variable [Storage σ]

/-- **Shows the document of a plan,** and keeps it. -/
def importProcess (plan : String) : Run σ (Except SessionFault Phase) := do
  enter .loading
  match ← showPlan plan with
  | .ok xml =>
    keep .diagram xml
    inform .success "Diagram imported successfully from AI plan"
    return .ok (← settle)
  | .error refusal =>
    inform .warning s!"Failed to import diagram from AI plan: {refusal.message}"
    loadTemplate

/-- Shows the document of the plan that waited. The plan waits no longer, whatever comes of it. -/
def loadPending (plan : String) : Run σ (Except SessionFault Phase) := do
  match ← showPlan plan with
  | .ok xml =>
    keep .diagram xml
    clearSlot .pending
    inform .success "AI-generated diagram loaded successfully"
    return .ok (← settle)
  | .error _ =>
    clearSlot .pending
    inform .warning "Failed to load AI diagram, loading a blank diagram instead"
    loadTemplate

/-- Shows the document that was kept. One that cannot be shown is kept no longer. -/
def restore (xml : String) : Run σ (Except SessionFault Phase) := do
  match ← «show» xml with
  | .ok () =>
    inform .success "Diagram loaded from storage"
    return .ok (← settle)
  | .error _ =>
    clearSlot .diagram
    inform .warning "Failed to load saved diagram, loading a blank diagram instead"
    loadTemplate

/-- **Shows the first document of a session.** -/
def load : Run σ (Except SessionFault Phase) := do
  enter .loading
  match ← readSlot .pending with
  | some plan => loadPending plan
  | none =>
    match ← readSlot .diagram with
    | some xml => restore xml
    | none => loadTemplate

end Session

end LaneChart
