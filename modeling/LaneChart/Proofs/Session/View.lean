/-
**What the parts of an operation do.** An operation of a session is a row of parts. Most of them
only put up a notice or call the storage, and leave alone what is in view.

* `Session.run_bind`, `Session.pure_run`, `Session.get_run`, `Session.enter_run`,
  `Session.callStorage_run`: how parts run.
* `Session.SameView`: the same canvas, selection, template and settings.
* `Session.sameView_keep`, `Session.sameView_clearSlot`, `Session.sameView_readSlot`: calls to the
  storage keep what is in view, whether they succeed or not.
* `Storage.held?`: what a session gets to see of a slot.
* `NoticeBoard.post_posted`: the notice that is put up.
-/

import LaneChart.Session.Basic

namespace LaneChart

/-- The text in a slot. A slot that cannot be read counts as empty. -/
def Storage.held? {σ : Type} [Storage σ] (slot : Slot) (storage : σ) : Option String :=
  (Storage.get slot storage).1.toOption.join

/-- The notice that is put up for the usual time. -/
theorem NoticeBoard.post_posted (kind : NoticeKind) (message : String) (board : NoticeBoard) :
    (board.post kind message).posted =
      board.posted ++ [⟨idOf (board.issued + 1), message, kind, board.defaultMs⟩] := by
  have same : UInt64.ofNat (board.defaultMs.toNat * millisecond / millisecond) =
      board.defaultMs := by
    rw [Nat.mul_div_cancel _ (by decide), UInt64.ofNat_toNat]
  have put : (board.post kind message).posted =
      board.posted ++ [⟨idOf (board.issued + 1), message, kind,
        .ofNat (board.defaultMs.toNat * millisecond / millisecond)⟩] := rfl
  rw [put, same]

namespace Session

variable {σ : Type}

/-! ### How parts run -/

/-- The operations one after the other. -/
theorem run_bind {α β : Type} (first : Run σ α) (next : α → Run σ β) (session : Session σ) :
    (first >>= next) session = next (first session).1 (first session).2 := rfl

theorem pure_run {α : Type} (result : α) (session : Session σ) :
    (pure result : Run σ α) session = (result, session) := rfl

theorem get_run (session : Session σ) :
    (get : Run σ (Session σ)) session = (session, session) := rfl

theorem enter_run (phase : Phase) (session : Session σ) :
    enter phase session = ((), { session with phase := phase }) := rfl

theorem callStorage_run {α : Type} (call : StateM σ (Except StorageFault α)) (session : Session σ) :
    callStorage call session =
      ((call session.storage).1, { session with storage := (call session.storage).2 }) := rfl

/-! ### What stays in view -/

/-- Two sessions with the same canvas, selection, template and settings. Phase, notices and slots
may differ. -/
structure SameView (before after : Session σ) : Prop where
  canvas : after.canvas = before.canvas
  selected : after.selected = before.selected
  template : after.template = before.template
  settings : after.settings = before.settings

theorem SameView.trans {first second third : Session σ} (left : SameView first second)
    (right : SameView second third) : SameView first third where
  canvas := right.canvas.trans left.canvas
  selected := right.selected.trans left.selected
  template := right.template.trans left.template
  settings := right.settings.trans left.settings

theorem sameView_enter (phase : Phase) (session : Session σ) :
    SameView session (enter phase session).2 := ⟨rfl, rfl, rfl, rfl⟩

theorem sameView_inform (kind : NoticeKind) (message : String) (session : Session σ) :
    SameView session (inform kind message session).2 := ⟨rfl, rfl, rfl, rfl⟩

theorem sameView_callStorage {α : Type} (call : StateM σ (Except StorageFault α))
    (session : Session σ) : SameView session (callStorage call session).2 := ⟨rfl, rfl, rfl, rfl⟩

variable [Storage σ]

/-- Keeping a text takes a call and perhaps a notice. -/
theorem sameView_keep (slot : Slot) (text : String) (session : Session σ) :
    SameView session (keep slot text session).2 := by
  have called := sameView_callStorage (Storage.set slot text) session
  rw [keep, run_bind]
  cases (callStorage (Storage.set slot text) session).1 with
  | ok => exact called
  | error fault => exact called.trans (sameView_inform _ _ _)

theorem sameView_clearSlot (slot : Slot) (session : Session σ) :
    SameView session (clearSlot slot session).2 := by
  have called := sameView_callStorage (Storage.remove slot) session
  rw [clearSlot, run_bind]
  cases (callStorage (Storage.remove slot) session).1 with
  | ok => exact called
  | error fault => exact called.trans (sameView_inform _ _ _)

theorem sameView_readSlot (slot : Slot) (session : Session σ) :
    SameView session (readSlot slot session).2 := by
  have called := sameView_callStorage (Storage.get slot) session
  rw [readSlot, run_bind]
  cases (callStorage (Storage.get slot) session).1 with
  | ok => exact called
  | error fault => exact called.trans (sameView_inform _ _ _)

/-! ### What is read -/

theorem readSlot_result (slot : Slot) (session : Session σ) :
    (readSlot slot session).1 = Storage.held? slot session.storage := by
  have called : (callStorage (Storage.get slot) session).1 =
      (Storage.get slot session.storage).1 := rfl
  rw [readSlot, run_bind, Storage.held?, ← called]
  cases (callStorage (Storage.get slot) session).1 with
  | ok => rfl
  | error fault => rfl

theorem readSlot_storage (slot : Slot) (session : Session σ) :
    (readSlot slot session).2.storage = (Storage.get slot session.storage).2 := by
  have called : (callStorage (Storage.get slot) session).2.storage =
      (Storage.get slot session.storage).2 := rfl
  rw [readSlot, run_bind, ← called]
  cases (callStorage (Storage.get slot) session).1 with
  | ok => rfl
  | error fault => rfl

/-! ### What is written -/

theorem keep_storage (slot : Slot) (text : String) (session : Session σ) :
    (keep slot text session).2.storage = (Storage.set slot text session.storage).2 := by
  have called : (callStorage (Storage.set slot text) session).2.storage =
      (Storage.set slot text session.storage).2 := rfl
  rw [keep, run_bind, ← called]
  cases (callStorage (Storage.set slot text) session).1 with
  | ok => rfl
  | error fault => rfl

theorem clearSlot_storage (slot : Slot) (session : Session σ) :
    (clearSlot slot session).2.storage = (Storage.remove slot session.storage).2 := by
  have called : (callStorage (Storage.remove slot) session).2.storage =
      (Storage.remove slot session.storage).2 := rfl
  rw [clearSlot, run_bind, ← called]
  cases (callStorage (Storage.remove slot) session).1 with
  | ok => rfl
  | error fault => rfl

end Session

end LaneChart
