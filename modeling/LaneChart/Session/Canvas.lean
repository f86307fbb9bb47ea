/-
**The canvas** is where a document is shown and changed. It takes any document that can be
summarized, unless it was told to refuse it, and it reports what happens on it as events.

* `Selection`, `Patch`: the element that is selected, and changes of its properties.
* `CanvasEvent`: what is reported.
* `Canvas`: the document shown, the elements on it, the commands that were carried out, and the
  events nobody has taken note of yet.
* `Canvas.importXml`, `Canvas.saveXml`, `Canvas.updateProperties`, `Canvas.createShape`: the
  calls. One that fails leaves the canvas as it was.
* `Canvas.waiting`: the events that are still there to be taken note of; the oldest are lost when
  there are too many.
-/

import LaneChart.Diagram.Summary
import LaneChart.Workflow.Basic

namespace LaneChart

/-- Changes of the properties of an element. What is absent stays. -/
structure Patch where
  name : Option String := none
  id : Option String := none
deriving DecidableEq, Repr

/-- Whether a patch changes nothing. -/
def Patch.isEmpty (patch : Patch) : Bool := patch.name.isNone && patch.id.isNone

/-- **The element that is selected.** -/
structure Selection where
  id : String
  name : String
  typeName : String
  documentation : String
deriving DecidableEq, Repr

/-- The selection after a patch. -/
def Selection.apply (selection : Selection) (patch : Patch) : Selection :=
  { selection with name := patch.name.getD selection.name, id := patch.id.getD selection.id }

/-- **What a canvas reports.** -/
inductive CanvasEvent where
  /-- nothing is selected when no element or several are -/
  | selectionChanged (selection : Option Selection)
  | commandRun
deriving DecidableEq, Repr

/-- A command that was carried out. -/
inductive CanvasCommand where
  | update (id : String) (patch : Patch)
  | create (kind : ElementKind) (id : String)
deriving DecidableEq, Repr

/-- **Why a call to a canvas fails.** -/
inductive CanvasFault where
  | importRejected (reason : String)
  | saveFailed (reason : String)
  | unknownElement (id : String)
  | commandFailed (command : String)
deriving DecidableEq, Repr

/-- How it is said that a call to a canvas fails. -/
def CanvasFault.message : CanvasFault → String
  | .importRejected reason => s!"diagram import rejected: {reason}"
  | .saveFailed reason => s!"diagram save failed: {reason}"
  | .unknownElement id => s!"element not found: {id}"
  | .commandFailed command => s!"modeling command failed: {command}"

/-- **The canvas.** -/
structure Canvas where
  current : Option String := none
  /-- all documents that were shown, first one first -/
  imports : List String := []
  /-- the ids of the elements of the process when it was shown, with later changes -/
  registry : List String := []
  /-- all commands that were carried out, first one first -/
  commands : List CanvasCommand := []
  shapes : Nat := 0
  /-- documents that hold one of these are refused -/
  refused : List String := []
  failSaves : Bool := false
  failCommands : Bool := false
  /-- the events that were reported since the last time somebody took note, first one first -/
  outbox : List CanvasEvent := []
deriving DecidableEq, Repr

namespace Canvas

/-- How many events wait at most. -/
def capacity : Nat := 64

/-- Reports an event. -/
def report (event : CanvasEvent) (canvas : Canvas) : Canvas :=
  { canvas with outbox := canvas.outbox ++ [event] }

/-- The events that still wait, first one first. -/
def waiting (canvas : Canvas) : List CanvasEvent :=
  canvas.outbox.drop (canvas.outbox.length - capacity)

/-- Whether there is an element with an id. -/
def hasElement (id : String) (canvas : Canvas) : Bool := canvas.registry.contains id

/-- Why a document is refused, if it is; the elements of the process otherwise. -/
def inspect (xml : String) (canvas : Canvas) : Except CanvasFault (List String) :=
  match canvas.refused.find? (Text.within · xml) with
  | some marker => .error (.importRejected s!"refused content: {marker}")
  | none =>
    match summarize xml with
    | .error fault => .error (.importRejected fault.message)
    | .ok summary => .ok (summary.elements.map (·.id))

/-- **Shows a document** in place of the one that is shown. -/
def importXml (xml : String) (canvas : Canvas) : Except CanvasFault Canvas := do
  let ids ← canvas.inspect xml
  return { canvas with current := some xml, imports := canvas.imports ++ [xml], registry := ids }

/-- **The document that is shown.** -/
def saveXml (canvas : Canvas) : Except CanvasFault String :=
  if canvas.failSaves then .error (.saveFailed "engine busy")
  else
    match canvas.current with
    | some xml => .ok xml
    | none => .error (.saveFailed "no diagram loaded")

/-- The first entry with an id replaced. -/
def renamed (id new : String) : List String → List String
  | [] => []
  | entry :: rest => if entry = id then new :: rest else entry :: renamed id new rest

/-- **Changes the properties of an element.** -/
def updateProperties (id : String) (patch : Patch) (canvas : Canvas) :
    Except CanvasFault Canvas :=
  if canvas.failCommands then .error (.commandFailed "updateProperties")
  else if !canvas.hasElement id then .error (.unknownElement id)
  else
    let changed : Canvas :=
      { canvas with
        registry := renamed id (patch.id.getD id) canvas.registry
        commands := canvas.commands ++ [.update id patch] }
    .ok (changed.report .commandRun)

/-- **Puts a new shape on the canvas,** and gives back its id. -/
def createShape (kind : ElementKind) (canvas : Canvas) : Except CanvasFault (String × Canvas) :=
  if canvas.failCommands then .error (.commandFailed "createShape")
  else
    let id := s!"Shape_{canvas.shapes + 1}"
    .ok (id, { canvas with
      shapes := canvas.shapes + 1
      registry := canvas.registry ++ [id]
      commands := canvas.commands ++ [.create kind id] })

/-- A user changes the document on the canvas. -/
def edit (xml : String) (canvas : Canvas) : Canvas :=
  { canvas with current := some xml }.report .commandRun

/-- Refuses documents that hold a text from now on. -/
def refuse (marker : String) (canvas : Canvas) : Canvas :=
  { canvas with refused := canvas.refused ++ [marker] }

end Canvas

end LaneChart
