/-
**A session** joins a canvas, a storage for slots and a notice board. Whatever happens on the way,
the user ends up with a document on the canvas: input that cannot be shown is dropped with a
warning, and the template is shown instead.

* `Phase`: how far a session is.
* `Session`: the session itself, over any storage.
* `Session.readSlot`, `Session.keep`, `Session.clearSlot`: calls to the storage whose faults
  become notices and nothing else.
* `SessionFault`: why an operation of a session fails.
-/

import LaneChart.Session.Canvas
import LaneChart.Session.NoticeBoard
import LaneChart.Settings.Basic
import LaneChart.Slots.Storage

namespace LaneChart

/-- **How far a session is.** -/
inductive Phase where
  | uninitialized
  | loading
  | ready
  | modified
  | saved
  | exported
deriving DecidableEq, Repr

namespace Phase

/-- The name of a phase. -/
def name : Phase → String
  | uninitialized => "uninitialized"
  | loading => "loading"
  | ready => "ready"
  | modified => "modified"
  | saved => "saved"
  | exported => "exported"

/-- Whether a document is shown that a command can modify. -/
def showsDocument : Phase → Bool
  | ready | modified | saved | exported => true
  | uninitialized | loading => false

end Phase

/-- **A session** over a storage. -/
structure Session (σ : Type) where
  settings : Settings
  /-- the document that is shown when there is no better one -/
  template : String := blankDocument
  storage : σ
  canvas : Canvas := {}
  board : NoticeBoard := {}
  phase : Phase := .uninitialized
  selected : Option Selection := none

/-- **Why an operation of a session fails.** -/
inductive SessionFault where
  | templateRejected (fault : CanvasFault)
  | canvas (fault : CanvasFault)
  | summary (fault : Markup.Fault)
deriving DecidableEq, Repr

/-- How it is said that an operation fails. -/
def SessionFault.message : SessionFault → String
  | .templateRejected fault =>
    s!"default template rejected by the diagram engine: {fault.message}"
  | .canvas fault => fault.message
  | .summary fault => fault.message

namespace Session

/-- A new session. -/
def start {σ : Type} (settings : Settings) (template : String) (storage : σ) : Session σ :=
  { settings := settings
    template := template
    storage := storage
    board := { defaultMs := settings.notificationMs } }

/-- An operation of a session. -/
abbrev Run (σ α : Type) := StateM (Session σ) α

variable {σ : Type}

/-- Puts up a notice for the usual time. -/
def inform (kind : NoticeKind) (message : String) : Run σ Unit :=
  modify fun session => { session with board := session.board.post kind message }

/-- Goes on to a phase. -/
def enter (phase : Phase) : Run σ Unit := modify fun session => { session with phase := phase }

/-- Makes a call to the storage. -/
def callStorage {α : Type} (call : StateM σ (Except StorageFault α)) :
    Run σ (Except StorageFault α) := fun session =>
  let (result, storage) := call session.storage
  (result, { session with storage := storage })

/-- The notice about a call to the storage that failed. -/
def reportStorage (fault : StorageFault) : Run σ Unit :=
  inform .error s!"Storage unavailable: {fault.message}"

variable [Storage σ]

/-- The text in a slot; a slot that cannot be read counts as empty. -/
def readSlot (slot : Slot) : Run σ (Option String) := do
  match ← callStorage (Storage.get slot) with
  | .ok text => return text
  | .error fault =>
    reportStorage fault
    return none

/-- Puts a text into a slot if that is possible. -/
def keep (slot : Slot) (text : String) : Run σ Unit := do
  match ← callStorage (Storage.set slot text) with
  | .ok () => return ()
  | .error fault => reportStorage fault

/-- Empties a slot if that is possible. -/
def clearSlot (slot : Slot) : Run σ Unit := do
  match ← callStorage (Storage.remove slot) with
  | .ok () => return ()
  | .error fault => reportStorage fault

end Session

end LaneChart
