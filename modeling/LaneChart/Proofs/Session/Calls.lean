/-
**The calls that an action makes to the storage,** and what is said about those that fail. Which
calls are made depends on what is on the canvas, on what can be read and, when a document is saved,
on whether the first call succeeded.

* `SlotCall`, `SlotCall.make`, `SlotCall.makeAll`: calls, why they fail, and the storage after them.
* `Note`, `NoticeBoard.putUp`: a row of notices is put up.
* `Session.afterCall`: a call is made, and its fault is reported; `Session.readSlot_afterCall`,
  `Session.keep_afterCall`, `Session.clearSlot_afterCall`: a session makes its calls like that.
* `Session.calls`: the calls of an action; `Session.keepSaved_eq`: those of a save.
-/

import LaneChart.Proofs.Session.Saving

namespace LaneChart

/-! ### Calls -/

/-- **A call to a storage.** -/
inductive SlotCall where
  | get (slot : Slot)
  | set (slot : Slot) (text : String)
  | remove (slot : Slot)
deriving DecidableEq, Repr

/-- Why a call failed, if it did. -/
def faultOf? {α : Type} : Except StorageFault α → Option StorageFault
  | .ok _ => none
  | .error fault => some fault

namespace SlotCall

variable {σ : Type}

/-- Makes a call, and gives back why it failed, if it did. -/
def make [Storage σ] (storage : σ) : SlotCall → Option StorageFault × σ
  | get slot => (faultOf? (Storage.get slot storage).1, (Storage.get slot storage).2)
  | set slot text => (faultOf? (Storage.set slot text storage).1, (Storage.set slot text storage).2)
  | remove slot => (faultOf? (Storage.remove slot storage).1, (Storage.remove slot storage).2)

/-- **Makes calls one after the other,** and gives back why some of them failed. -/
def makeAll [Storage σ] (storage : σ) : List SlotCall → List StorageFault × σ
  | [] => ([], storage)
  | call :: rest =>
    let (fault, between) := call.make storage
    let (faults, after) := makeAll between rest
    (fault.toList ++ faults, after)

/-- One more call at the end. -/
theorem makeAll_concat [Storage σ] (storage : σ) (calls : List SlotCall) (call : SlotCall) :
    makeAll storage (calls ++ [call]) =
      ((makeAll storage calls).1 ++ (call.make (makeAll storage calls).2).1.toList,
        (call.make (makeAll storage calls).2).2) := by
  induction calls generalizing storage with
  | nil => simp [makeAll]
  | cons first rest ih => simp [makeAll, ih]

/-- No call to a storage that never fails does. -/
theorem make_reliable [ReliableStorage σ] (storage : σ) (call : SlotCall) :
    (make storage call).1 = none := by
  cases call with
  | get slot => rw [make, ReliableStorage.get_result]; rfl
  | set slot text => rw [make, ReliableStorage.set_result]; rfl
  | remove slot => rw [make, ReliableStorage.remove_result]; rfl

end SlotCall

/-! ### Rows of notices -/

/-- What a notice says, and for how long. -/
structure Note where
  kind : NoticeKind
  message : String
  durationMs : UInt64
deriving DecidableEq, Repr

namespace NoticeBoard

/-- **Puts up a row of notices.** -/
def putUp (notes : List Note) (board : NoticeBoard) : NoticeBoard :=
  notes.foldl (fun board note => (board.push note.kind note.message note.durationMs).2) board

theorem putUp_append (first second : List Note) (board : NoticeBoard) :
    board.putUp (first ++ second) = (board.putUp first).putUp second := List.foldl_append

@[simp] theorem putUp_defaultMs (notes : List Note) (board : NoticeBoard) :
    (board.putUp notes).defaultMs = board.defaultMs := by
  induction notes generalizing board with
  | nil => rfl
  | cons note notes ih => exact ih _

end NoticeBoard

namespace Session

variable {σ : Type} [Storage σ]

/-! ### Calls whose faults are reported -/

/-- What is said about a call that failed, for the usual time. -/
def faultNote (durationMs : UInt64) (fault : StorageFault) : Note :=
  ⟨.error, s!"Storage unavailable: {fault.message}", durationMs⟩

/-- **The session after a call** whose fault, if there is one, is reported. -/
def afterCall (session : Session σ) (call : SlotCall) : Session σ :=
  { session with
    storage := (call.make session.storage).2
    board := session.board.putUp
      ((call.make session.storage).1.toList.map (faultNote session.board.defaultMs)) }

theorem readSlot_afterCall (slot : Slot) (session : Session σ) :
    (readSlot slot session).2 = session.afterCall (.get slot) := by
  rw [readSlot, run_bind, callStorage_run, afterCall, SlotCall.make]
  cases (Storage.get slot session.storage).1 <;> rfl

theorem keep_afterCall (slot : Slot) (text : String) (session : Session σ) :
    (keep slot text session).2 = session.afterCall (.set slot text) := by
  rw [keep, run_bind, callStorage_run, afterCall, SlotCall.make]
  cases (Storage.set slot text session.storage).1 <;> rfl

theorem clearSlot_afterCall (slot : Slot) (session : Session σ) :
    (clearSlot slot session).2 = session.afterCall (.remove slot) := by
  rw [clearSlot, run_bind, callStorage_run, afterCall, SlotCall.make]
  cases (Storage.remove slot session.storage).1 <;> rfl

/-! ### The calls of an action -/

/-- The calls with which a plan is shown. -/
def importCalls (session : Session σ) (plan : String) : List SlotCall :=
  match session.taken? (.plan plan) with
  | some xml => [.set .diagram xml]
  | none => []

/-- The calls with which a plan that waits is shown. -/
def pendingCalls (session : Session σ) (plan : String) : List SlotCall :=
  match session.taken? (.plan plan) with
  | some xml => [.set .diagram xml, .remove .pending]
  | none => [.remove .pending]

/-- The calls with which a document that was kept is shown. -/
def restoreCalls (session : Session σ) (xml : String) : List SlotCall :=
  match session.taken? (.document xml) with
  | some _ => []
  | none => [.remove .diagram]

/-- The calls with which the first document of a session is shown. -/
def loadCalls (session : Session σ) : List SlotCall :=
  .get .pending ::
    match Storage.held? .pending session.storage with
    | some plan => session.pendingCalls plan
    | none =>
      .get .diagram ::
        match Storage.held? .diagram (Storage.get .pending session.storage).2 with
        | some xml => session.restoreCalls xml
        | none => []

/-- The calls with which a document is saved. -/
def saveCalls (session : Session σ) (xml stamp : String) : List SlotCall :=
  .set .diagram xml ::
    if (Storage.set .diagram xml session.storage).1.isOk then [.set .timestamp stamp] else []

/-- **The calls that an action makes.** -/
def calls (session : Session σ) : Action → List SlotCall
  | .opening .load => session.loadCalls
  | .opening (.importProcess plan) => session.importCalls plan
  | .save stamp =>
    match session.canvas.saveXml with
    | .ok xml => session.saveCalls xml stamp
    | .error _ => []
  | _ => []

/-- Keeping a document with the time of the save makes these calls, says nothing, and gives back the
fault of the one that failed. -/
theorem keepSaved_eq (xml stamp : String) (session : Session σ) :
    (keepSaved xml stamp session).2 =
        { session with
          storage := (SlotCall.makeAll session.storage (session.saveCalls xml stamp)).2 } ∧
      (SlotCall.makeAll session.storage (session.saveCalls xml stamp)).1 =
        (faultOf? (keepSaved xml stamp session).1).toList := by
  rw [keepSaved, run_bind, callStorage_run, saveCalls]
  cases done : (Storage.set .diagram xml session.storage).1 with
  | error fault =>
    simp only [SlotCall.makeAll, SlotCall.make, done]
    exact ⟨rfl, rfl⟩
  | ok =>
    have second : (if (Except.ok () : Except StorageFault Unit).isOk then
        [SlotCall.set .timestamp stamp] else []) = [.set .timestamp stamp] := rfl
    simp only [second, SlotCall.makeAll, SlotCall.make, done, callStorage_run, List.append_nil]
    exact ⟨trivial, rfl⟩

end Session

end LaneChart
