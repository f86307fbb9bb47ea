/-
**A task that is refused changes nothing but the notice board.** Five operations work on the
document that is shown. Each of them can be refused: the canvas is busy or shows nothing, the
selected element is gone, commands are not taken, or the document has no summary. Then the session,
the canvas with its events, and the storage are as before, and one notice says what failed.

* `Task`: the operations; `Task.fault?`: why one of them was refused, as it answers.
* `Session.objection?`: why it is refused, as the canvas shows beforehand; `Task.fault_eq` says that
  the answers are these.
* `Session.refused_changes_notices_only`: what a refusal leaves.
-/

import LaneChart.Proofs.Session.Saving

namespace LaneChart

/-- What went wrong, if something did. -/
def errorOf? {ε α : Type} : Except ε α → Option ε
  | .ok _ => none
  | .error fault => some fault

/-! ### Tasks -/

/-- **The operations that work on the document that is shown.** -/
inductive Task where
  | save (stamp : String)
  | exportXml
  | jsonView
  | updateSelected (patch : Patch)
  | createShape (kind : ElementKind)
deriving DecidableEq, Repr

namespace Task

/-- A task as something that happens to a session. -/
def action : Task → Action
  | save stamp => .save stamp
  | exportXml => .exportXml
  | jsonView => .jsonView
  | updateSelected patch => .updateSelected patch
  | createShape kind => .createShape kind

/-- **What is said when a task is refused.** Nothing is said about a summary. -/
def complaint? : Task → Option String
  | save _ => some "Failed to save diagram"
  | exportXml => some "Failed to export diagram"
  | jsonView => none
  | updateSelected _ => some "Failed to update element properties"
  | createShape _ => some "Tool activation failed"

variable {σ : Type} [Storage σ]

/-- **Why a task was refused,** if it was, as the operation answers. -/
def fault? (session : Session σ) : Task → Option SessionFault
  | save stamp => errorOf? (Session.save stamp session).1
  | exportXml => errorOf? (Session.exportXml session).1
  | jsonView => errorOf? (Session.jsonView session).1
  | updateSelected patch => errorOf? (Session.updateSelected patch session).1
  | createShape kind => errorOf? (Session.createShape kind session).1

end Task

namespace Session

variable {σ : Type}

/-- **Why a task is refused,** if it is, as can be told before it is tried. The storage has no part
in it. -/
def objection? (session : Session σ) : Task → Option SessionFault
  | .save _ | .exportXml => (errorOf? session.canvas.saveXml).map .canvas
  | .jsonView =>
    match session.canvas.saveXml with
    | .error fault => some (.canvas fault)
    | .ok xml => (errorOf? (summarize xml)).map .summary
  | .updateSelected patch => do
    let selection ← session.selected
    let sent := reduced selection.id patch
    if sent.isEmpty then none
    else (errorOf? (session.canvas.updateProperties selection.id sent)).map .canvas
  | .createShape kind => do
    let _ ← toolFor? kind
    (errorOf? (session.canvas.createShape kind)).map .canvas

/-- The session after a refusal about which something may be said. -/
def complaining (session : Session σ) (complaint? : Option String) : Session σ :=
  { session with board := complaint?.elim session.board (session.board.post .error) }

/-! ### One task -/

theorem exportXml_refusal (session : Session σ) :
    errorOf? (exportXml session).1 = session.objection? .exportXml ∧
      ∀ fault, session.objection? .exportXml = some fault →
        (exportXml session).2 = session.complaining (Task.complaint? .exportXml) := by
  simp only [exportXml, run_bind, get_run, objection?]
  cases session.canvas.saveXml with
  | ok xml => exact ⟨rfl, fun _ given => by cases given⟩
  | error refused => exact ⟨rfl, fun _ _ => rfl⟩

theorem jsonView_refusal (session : Session σ) :
    errorOf? (jsonView session).1 = session.objection? .jsonView ∧
      (jsonView session).2 = session := by
  simp only [jsonView, run_bind, get_run, objection?]
  cases session.canvas.saveXml with
  | error refused => exact ⟨rfl, rfl⟩
  | ok xml =>
    refine ⟨?_, rfl⟩
    dsimp only
    cases summarize xml <;> rfl

theorem createShape_refusal (kind : ElementKind) (session : Session σ) :
    errorOf? (createShape kind session).1 = session.objection? (.createShape kind) ∧
      ∀ fault, session.objection? (.createShape kind) = some fault →
        (createShape kind session).2 =
          session.complaining (Task.complaint? (.createShape kind)) := by
  simp only [createShape, objection?, Option.bind_eq_bind]
  cases toolFor? kind with
  | none => exact ⟨rfl, fun _ given => by cases given⟩
  | some tool =>
    simp only [run_bind, command, Option.bind_some]
    cases session.canvas.createShape kind with
    | ok created => exact ⟨rfl, fun _ given => by cases given⟩
    | error refused => exact ⟨rfl, fun _ _ => rfl⟩

theorem updateSelected_refusal (patch : Patch) (session : Session σ) :
    errorOf? (updateSelected patch session).1 = session.objection? (.updateSelected patch) ∧
      ∀ fault, session.objection? (.updateSelected patch) = some fault →
        (updateSelected patch session).2 =
          session.complaining (Task.complaint? (.updateSelected patch)) := by
  simp only [updateSelected, run_bind, get_run, objection?]
  cases session.selected with
  | none => exact ⟨rfl, fun _ given => by cases given⟩
  | some selection =>
    simp only [run_bind, send_run, Option.bind_eq_bind, Option.bind_some]
    cases (reduced selection.id patch).isEmpty with
    | true => exact ⟨rfl, fun _ given => by cases given⟩
    | false =>
      cases session.canvas.updateProperties selection.id (reduced selection.id patch) with
      | ok changed => exact ⟨rfl, fun _ given => by cases given⟩
      | error refused => exact ⟨rfl, fun _ _ => rfl⟩

variable [Storage σ]

theorem save_refusal (stamp : String) (session : Session σ) :
    errorOf? (save stamp session).1 = session.objection? (.save stamp) ∧
      ∀ fault, session.objection? (.save stamp) = some fault →
        (save stamp session).2 = session.complaining (Task.complaint? (.save stamp)) := by
  simp only [save, run_bind, get_run, objection?]
  cases session.canvas.saveXml with
  | error refused => exact ⟨rfl, fun _ _ => rfl⟩
  | ok xml =>
    -- Faults of the storage are not answered, so the canvas alone can refuse a save.
    refine ⟨?_, fun _ given => by cases given⟩
    simp only [run_bind]
    cases (keepSaved xml stamp session).1 <;> rfl

end Session

/-! ### All tasks -/

/-- **A task is refused for what can be told beforehand,** and for nothing else. -/
theorem Task.fault_eq {σ : Type} [Storage σ] (session : Session σ) (task : Task) :
    task.fault? session = session.objection? task := by
  cases task with
  | save stamp => exact (session.save_refusal stamp).1
  | exportXml => exact session.exportXml_refusal.1
  | jsonView => exact session.jsonView_refusal.1
  | updateSelected patch => exact (session.updateSelected_refusal patch).1
  | createShape kind => exact (session.createShape_refusal kind).1

namespace Session

variable {σ : Type} [Storage σ]

/-- **What a refusal leaves.** -/
theorem act_of_objection {session : Session σ} {task : Task} {fault : SessionFault}
    (refused : session.objection? task = some fault) :
    session.act task.action = session.complaining task.complaint? := by
  cases task with
  | save stamp => exact (session.save_refusal stamp).2 fault refused
  | exportXml => exact session.exportXml_refusal.2 fault refused
  | jsonView => exact session.jsonView_refusal.2
  | updateSelected patch => exact (session.updateSelected_refusal patch).2 fault refused
  | createShape kind => exact (session.createShape_refusal kind).2 fault refused

/-- **A task that is refused changes nothing but the notice board.** Whatever happened to a session
before, and over any storage: when saving, exporting, summarizing, updating the selected element or
creating a shape answers a fault, everything but the board is as before. One notice of an error was
put up, and none when no summary could be given. -/
theorem refused_changes_notices_only {session : Session σ} {task : Task} {fault : SessionFault}
    (refused : task.fault? session = some fault) :
    ∃ board : NoticeBoard, session.act task.action = { session with board := board } ∧
      if task = .jsonView then board = session.board
      else ∃ notice : Notice, notice.kind = .error ∧ task.complaint? = some notice.message ∧
        board.posted = session.board.posted ++ [notice] := by
  rw [Task.fault_eq] at refused
  refine ⟨_, act_of_objection refused, ?_⟩
  have said : ∀ message, ∃ notice : Notice, notice.kind = .error ∧
      some message = some notice.message ∧
      (session.board.post .error message).posted = session.board.posted ++ [notice] :=
    fun message => ⟨_, rfl, rfl, session.board.post_posted .error message⟩
  cases task with
  | jsonView => exact (if_pos rfl).mpr rfl
  | save stamp => exact (if_neg nofun).mpr (said _)
  | exportXml => exact (if_neg nofun).mpr (said _)
  | updateSelected patch => exact (if_neg nofun).mpr (said _)
  | createShape kind => exact (if_neg nofun).mpr (said _)

/-- A run after which an element is selected that is not on the canvas. -/
def staleRun : List Action :=
  [.opening (.importDiagram "<a><process><b id=\"x\"/></process></a>"),
    .report (.selectionChanged (some ⟨"y", "", "task", ""⟩)), .pump]

/-- After such a run, updating the selected element is refused: the canvas does not know it. -/
theorem refused_changes_notices_only_stale :
    let session := staleRun.foldl act (start {} blankDocument ({} : Shelf))
    let task := Task.updateSelected ⟨some "n", none⟩
    session.selected = some ⟨"y", "", "task", ""⟩ ∧
      task.fault? session = some (.canvas (.unknownElement "y")) ∧
      ∃ board : NoticeBoard, session.act task.action = { session with board := board } ∧
        ∃ notice : Notice, notice.kind = .error ∧ task.complaint? = some notice.message ∧
          board.posted = session.board.posted ++ [notice] := by
  intro session task
  have refused : task.fault? session = some (.canvas (.unknownElement "y")) := by decide +kernel
  obtain ⟨board, same, noticed⟩ := refused_changes_notices_only refused
  exact ⟨by decide +kernel, refused, board, same, (if_neg nofun).mp noticed⟩

end Session

end LaneChart
