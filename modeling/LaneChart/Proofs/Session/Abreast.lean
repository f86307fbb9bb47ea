/-
**Faults of the storage stay aside.** Run an action on a session over a storage that never fails,
and on the same session over one from which the same is read and whose calls may fail. The two give
the same answer and show the same document with the same selection. What differs is said on the
board: one more notice for each call that failed, before all others; and a save that failed says so,
and does not count as a save.

* `Session.onStorage`, `Session.answer`: a session over another storage, and what an action gives
  back.
* `Abreast`, `InStep`: what two sessions have in common, and which notices one of them has in
  addition; the same for the results of two operations.
* `Abreast.called`: a call keeps two sessions abreast; so do all parts of an operation, and from
  them the operations, such as `Abreast.load` and `Abreast.importProcess`.
* `Session.save_faulty`: a save is the exception.
* `Session.faults_stay_aside`: all actions.
-/

import LaneChart.Proofs.Session.Calls

namespace LaneChart

open ReliableStorage

/-! ### Two sessions -/

/-- **What an action gives back.** -/
inductive Answer where
  | phase (result : Except SessionFault Phase)
  | text (result : Except SessionFault String)
  | summary (result : Except SessionFault Summary)
  | changed (result : Except SessionFault Bool)
  | shape (result : Except SessionFault (Option String))
  | count (number : Nat)
  | nothing

namespace Session

variable {σ τ : Type}

/-- The same session over another storage. -/
def onStorage (session : Session σ) (storage : τ) : Session τ := { session with storage := storage }

/-- What an action gives back. -/
def answer [Storage σ] (session : Session σ) : Action → Answer
  | .opening opening => .phase (opening.run session).1
  | .save stamp => .text (save stamp session).1
  | .exportXml => .text (exportXml session).1
  | .jsonView => .summary (jsonView session).1
  | .updateSelected patch => .changed (updateSelected patch session).1
  | .createShape kind => .shape (createShape kind session).1
  | .pump => .count (pump session).1
  | _ => .nothing

end Session

open Session

variable {σ τ : Type} [Storage τ]

/-- **Two sessions are abreast** that went on from the same one, the second of them over a storage
to which calls were made that may have failed. They only differ in the storage, and in the notices
about these calls, which come before what both were told. -/
structure Abreast (session : Session σ) (faulty : τ) (calls : List SlotCall) (told : List Note)
    (working : Session σ) (failing : Session τ) : Prop where
  settings : failing.settings = working.settings
  template : failing.template = working.template
  canvas : failing.canvas = working.canvas
  phase : failing.phase = working.phase
  selected : failing.selected = working.selected
  storage : failing.storage = (SlotCall.makeAll faulty calls).2
  noted : working.board = session.board.putUp told
  reported : failing.board = session.board.putUp
    ((SlotCall.makeAll faulty calls).1.map (faultNote session.board.defaultMs) ++ told)

/-- An operation gave two sessions the same result, and they are abreast after it. -/
structure InStep {α : Type} (session : Session σ) (faulty : τ) (calls : List SlotCall)
    (told : List Note) (working : α × Session σ) (failing : α × Session τ) : Prop where
  result : failing.1 = working.1
  abreast : Abreast session faulty calls told working.2 failing.2

namespace Abreast

theorem start (session : Session σ) (faulty : τ) :
    Abreast session faulty [] [] session (session.onStorage faulty) :=
  ⟨rfl, rfl, rfl, rfl, rfl, rfl, rfl, rfl⟩

variable {session working : Session σ} {faulty : τ} {failing : Session τ}
  {calls : List SlotCall} {told : List Note}

/-! ### Parts of an operation -/

theorem enter (abreast : Abreast session faulty calls told working failing) (phase : Phase) :
    Abreast session faulty calls told (enter phase working).2 (enter phase failing).2 :=
  { abreast with phase := rfl }

theorem settle (abreast : Abreast session faulty calls told working failing) :
    Abreast session faulty calls told (settle working).2 (settle failing).2 :=
  { abreast with phase := rfl, selected := rfl }

theorem select (abreast : Abreast session faulty calls told working failing)
    (selected : Option Selection) : Abreast session faulty calls told
      { working with selected := selected } { failing with selected := selected } :=
  { abreast with selected := rfl }

/-- Both put up a notice. -/
theorem push (abreast : Abreast session faulty calls told working failing) (note : Note) :
    Abreast session faulty calls (told ++ [note])
      { working with board := (working.board.push note.kind note.message note.durationMs).2 }
      { failing with board := (failing.board.push note.kind note.message note.durationMs).2 } :=
  { abreast with
    noted := by
      rw [abreast.noted, NoticeBoard.putUp_append]
      rfl
    reported := by
      rw [abreast.reported, ← List.append_assoc, NoticeBoard.putUp_append _ [note]]
      rfl }

/-- Both put up a notice for the usual time. -/
theorem inform (abreast : Abreast session faulty calls told working failing) (kind : NoticeKind)
    (message : String) :
    Abreast session faulty calls (told ++ [⟨kind, message, session.board.defaultMs⟩])
      (inform kind message working).2 (inform kind message failing).2 := by
  have usual : working.board.defaultMs = session.board.defaultMs := by
    rw [abreast.noted, NoticeBoard.putUp_defaultMs]
  have same : failing.board.defaultMs = session.board.defaultMs := by
    rw [abreast.reported, NoticeBoard.putUp_defaultMs]
  have first : (Session.inform kind message working).2 = { working with
      board := (working.board.push kind message session.board.defaultMs).2 } := by
    rw [← usual]
    rfl
  have second : (Session.inform kind message failing).2 = { failing with
      board := (failing.board.push kind message session.board.defaultMs).2 } := by
    rw [← same]
    rfl
  rw [first, second]
  exact abreast.push ⟨kind, message, session.board.defaultMs⟩

theorem «show» (abreast : Abreast session faulty calls told working failing) (xml : String) :
    InStep session faulty calls told («show» xml working) («show» xml failing) := by
  rw [Session.show, Session.show, abreast.canvas]
  cases working.canvas.importXml xml with
  | ok canvas => exact ⟨rfl, { abreast with canvas := rfl }⟩
  | error fault => exact ⟨rfl, abreast⟩

theorem showPlan (abreast : Abreast session faulty calls told working failing) (plan : String) :
    InStep session faulty calls told (showPlan plan working) (showPlan plan failing) := by
  unfold Session.showPlan
  cases Draft.ofPlan plan with
  | error fault => exact ⟨rfl, abreast⟩
  | ok draft =>
    have shown := abreast.show (working.settings.compile draft)
    simp only [run_bind, get_run, abreast.settings, shown.result]
    cases (Session.show (working.settings.compile draft) working).1 <;> exact ⟨rfl, shown.abreast⟩

theorem loadTemplate (abreast : Abreast session faulty calls told working failing) :
    InStep session faulty calls told (loadTemplate working) (loadTemplate failing) := by
  have entered := abreast.enter .loading
  have shown := entered.show (Session.enter .loading working).2.template
  simp only [Session.loadTemplate, run_bind, get_run, entered.template, shown.result]
  cases (Session.show _ (Session.enter .loading working).2).1 with
  | ok => exact ⟨rfl, shown.abreast.settle⟩
  | error fault => exact ⟨rfl, shown.abreast⟩

/-! ### Operations without calls -/

theorem createNew (abreast : Abreast session faulty calls told working failing) :
    ∃ more, InStep session faulty calls more (createNew working) (createNew failing) := by
  have shown := abreast.loadTemplate
  simp only [Session.createNew, run_bind, shown.result]
  cases (Session.loadTemplate working).1 with
  | ok phase => exact ⟨_, rfl, shown.abreast.inform _ _⟩
  | error fault => exact ⟨_, rfl, shown.abreast⟩

theorem importDiagram (abreast : Abreast session faulty calls told working failing)
    (xml : String) : ∃ more,
      InStep session faulty calls more (importDiagram xml working) (importDiagram xml failing) := by
  have shown := (abreast.enter .loading).show xml
  simp only [Session.importDiagram, run_bind, shown.result]
  cases (Session.show xml (Session.enter .loading working).2).1 with
  | ok => exact ⟨_, rfl, (shown.abreast.inform _ _).settle⟩
  | error fault => exact ⟨_, (shown.abreast.inform _ _).loadTemplate⟩

/-- An operation that the canvas refuses. -/
theorem refuse {α : Type} (abreast : Abreast session faulty calls told working failing)
    (message : String) (fault : CanvasFault) : ∃ more, InStep session faulty calls more
      (refuse (α := α) message fault working) (refuse (α := α) message fault failing) :=
  ⟨_, rfl, abreast.inform _ _⟩

theorem exportXml (abreast : Abreast session faulty calls told working failing) :
    ∃ more, InStep session faulty calls more (exportXml working) (exportXml failing) := by
  simp only [Session.exportXml, run_bind, get_run, abreast.canvas]
  cases working.canvas.saveXml with
  | ok xml => exact ⟨_, rfl, (abreast.enter .exported).inform _ _⟩
  | error fault => exact abreast.refuse _ _

theorem jsonView (abreast : Abreast session faulty calls told working failing) :
    InStep session faulty calls told (jsonView working) (jsonView failing) := by
  simp only [Session.jsonView, run_bind, get_run, abreast.canvas]
  cases working.canvas.saveXml <;> exact ⟨rfl, abreast⟩

theorem command {α : Type} (abreast : Abreast session faulty calls told working failing)
    (run : Canvas → Except CanvasFault (α × Canvas)) :
    InStep session faulty calls told (command run working) (command run failing) := by
  rw [Session.command, Session.command, abreast.canvas]
  cases run working.canvas with
  | ok done => exact ⟨rfl, { abreast with canvas := rfl }⟩
  | error fault => exact ⟨rfl, abreast⟩

theorem updateSelected (abreast : Abreast session faulty calls told working failing)
    (patch : Patch) : ∃ more, InStep session faulty calls more
      (updateSelected patch working) (updateSelected patch failing) := by
  simp only [Session.updateSelected, run_bind, get_run, abreast.selected]
  cases working.selected with
  | none => exact ⟨_, rfl, abreast⟩
  | some selection =>
    have sent : InStep session faulty calls told
        (send selection.id (reduced selection.id patch) working)
        (send selection.id (reduced selection.id patch) failing) := by
      unfold send
      split
      · exact ⟨rfl, abreast⟩
      · exact abreast.command _
    simp only [run_bind, sent.result]
    cases (send selection.id (reduced selection.id patch) working).1 with
    | ok => exact ⟨_, rfl, (sent.abreast.select _).inform _ _⟩
    | error fault => exact sent.abreast.refuse _ _

theorem createShape (abreast : Abreast session faulty calls told working failing)
    (kind : ElementKind) : ∃ more, InStep session faulty calls more
      (createShape kind working) (createShape kind failing) := by
  unfold Session.createShape
  cases toolFor? kind with
  | none => exact ⟨_, rfl, abreast.inform _ _⟩
  | some tool =>
    have done := abreast.command (Canvas.createShape kind)
    simp only [run_bind, done.result]
    cases (Session.command (Canvas.createShape kind) working).1 with
    | ok id => exact ⟨_, rfl, done.abreast.push ⟨_, _, _⟩⟩
    | error fault => exact done.abreast.refuse _ _

/-- Both take note of an event. -/
theorem afterEvent (abreast : Abreast session faulty calls told working failing)
    (event : CanvasEvent) :
    Abreast session faulty calls told (working.afterEvent event) (failing.afterEvent event) := by
  cases event with
  | selectionChanged selection => exact abreast.select selection
  | commandRun =>
    rw [Session.afterEvent, Session.afterEvent, abreast.phase]
    cases working.phase.showsDocument with
    | true => exact { abreast with phase := rfl }
    | false => exact abreast

theorem pump (abreast : Abreast session faulty calls told working failing) :
    InStep session faulty calls told (pump working) (pump failing) := by
  have noted : ∀ events : List CanvasEvent, Abreast session faulty calls told
      (events.foldl Session.afterEvent working) (events.foldl Session.afterEvent failing) := by
    intro events
    induction events generalizing working failing with
    | nil => exact abreast
    | cons event events ih => exact ih (abreast.afterEvent event)
  have here := noted working.canvas.waiting
  have same : failing.canvas.waiting = working.canvas.waiting := by rw [abreast.canvas]
  rw [Session.pump, Session.pump, same]
  exact ⟨rfl, { here with canvas := by rw [here.canvas] }⟩

end Abreast

/-! ### Operations with calls -/

theorem Session.toOption_showPlan (plan : String) (session : Session σ) :
    (showPlan plan session).1.toOption = session.taken? (.plan plan) := by
  rcases showPlan_eq plan session with ⟨xml, ids, wanted, _, shown⟩ | ⟨wanted, refusal, shown⟩ <;>
    rw [shown, wanted] <;> rfl

namespace Abreast

variable [ReliableStorage σ] {session working : Session σ} {faulty : τ} {failing : Session τ}
  {calls : List SlotCall}

/-- Both make a call, and the second one reports it if it failed. -/
theorem called (abreast : Abreast session faulty calls [] working failing) (call : SlotCall) :
    Abreast session faulty (calls ++ [call]) [] (working.afterCall call)
      (failing.afterCall call) :=
  { abreast with
    storage := by
      rw [SlotCall.makeAll_concat, ← abreast.storage]
      rfl
    noted := by
      rw [afterCall, SlotCall.make_reliable]
      exact abreast.noted
    reported := by
      -- Nothing was told yet, so the notice about the new call goes to the end.
      have reported := abreast.reported
      rw [List.append_nil] at reported
      have usual : failing.board.defaultMs = session.board.defaultMs := by
        rw [reported, NoticeBoard.putUp_defaultMs]
      rw [afterCall, usual, reported, ← NoticeBoard.putUp_append, ← List.map_append,
        abreast.storage, SlotCall.makeAll_concat, List.append_nil] }

theorem importProcess (abreast : Abreast session faulty calls [] working failing)
    (plan : String) : ∃ told, InStep session faulty (calls ++ failing.importCalls plan) told
      (importProcess plan working) (importProcess plan failing) := by
  have shown := (abreast.enter .loading).showPlan plan
  have wanted : (Session.showPlan plan (Session.enter .loading failing).2).1.toOption =
      failing.taken? (.plan plan) := toOption_showPlan plan _
  rw [shown.result] at wanted
  simp only [Session.importProcess, run_bind, shown.result, importCalls, ← wanted]
  cases (Session.showPlan plan (Session.enter .loading working).2).1 with
  | ok xml =>
    have kept := shown.abreast.called (.set .diagram xml)
    simp only [run_bind, keep_afterCall]
    exact ⟨_, rfl, (kept.inform _ _).settle⟩
  | error refusal =>
    have same : calls ++ [] = calls := List.append_nil calls
    exact ⟨_, same ▸ (shown.abreast.inform _ _).loadTemplate⟩

theorem loadPending (abreast : Abreast session faulty calls [] working failing) (plan : String) :
    ∃ told, InStep session faulty (calls ++ failing.pendingCalls plan) told
      (loadPending plan working) (loadPending plan failing) := by
  have shown := abreast.showPlan plan
  have wanted := toOption_showPlan plan failing
  rw [shown.result] at wanted
  simp only [Session.loadPending, run_bind, shown.result, pendingCalls, ← wanted]
  cases (Session.showPlan plan working).1 with
  | ok xml =>
    have kept := (shown.abreast.called (.set .diagram xml)).called (.remove .pending)
    rw [List.append_assoc] at kept
    simp only [run_bind, keep_afterCall, clearSlot_afterCall]
    exact ⟨_, rfl, (kept.inform _ _).settle⟩
  | error refusal =>
    have cleared := shown.abreast.called (.remove .pending)
    simp only [run_bind, clearSlot_afterCall]
    exact ⟨_, (cleared.inform _ _).loadTemplate⟩

theorem restore (abreast : Abreast session faulty calls [] working failing) (xml : String) :
    ∃ told, InStep session faulty (calls ++ failing.restoreCalls xml) told
      (restore xml working) (restore xml failing) := by
  have shown := abreast.show xml
  cases taken : failing.canvas.inspect xml with
  | ok ids =>
    have wanted : failing.taken? (.document xml) = some xml := taken_eq_some rfl taken
    have first : (Session.show xml working).1 = .ok () := by
      rw [← shown.result, show_taken taken]
    simp only [Session.restore, run_bind, shown.result, first, restoreCalls, wanted,
      List.append_nil]
    exact ⟨_, rfl, (shown.abreast.inform _ _).settle⟩
  | error fault =>
    have wanted : failing.taken? (.document xml) = none := taken_eq_none rfl taken
    have first : (Session.show xml working).1 = .error fault := by
      rw [← shown.result, show_refused taken]
    have cleared := shown.abreast.called (.remove .diagram)
    simp only [Session.restore, run_bind, shown.result, first, restoreCalls, wanted,
      clearSlot_afterCall]
    exact ⟨_, (cleared.inform _ _).loadTemplate⟩

/-- What can be read decides what is shown first. -/
theorem load (pending : content .pending session.storage = Storage.held? .pending faulty)
    (diagram : content .diagram session.storage =
      Storage.held? .diagram (Storage.get .pending faulty).2) :
    ∃ told, InStep session faulty (session.onStorage faulty).loadCalls told (load session)
      (load (session.onStorage faulty)) := by
  have first := ((start session faulty).enter .loading).called (.get .pending)
  -- Both get to see the same, even if one of them could not read it.
  have waits : Storage.held? .pending (Session.enter .loading session).2.storage =
      Storage.held? .pending faulty := (held_eq _ _).trans pending
  have waitsToo : Storage.held? .pending
      (Session.enter .loading (session.onStorage faulty)).2.storage =
        Storage.held? .pending faulty := rfl
  have storage : (session.onStorage faulty).storage = faulty := rfl
  simp only [Session.load, loadCalls, run_bind, readSlot_result, readSlot_afterCall, waits,
    waitsToo, storage]
  cases Storage.held? .pending faulty with
  | some plan => exact first.loadPending plan
  | none =>
    have second := first.called (.get .diagram)
    have kept : Storage.held? .diagram
        ((Session.enter .loading session).2.afterCall (.get .pending)).storage =
          Storage.held? .diagram (Storage.get .pending faulty).2 :=
      ((held_eq _ _).trans (content_get _ _ _)).trans diagram
    have keptToo : Storage.held? .diagram
        ((Session.enter .loading (session.onStorage faulty)).2.afterCall (.get .pending)).storage =
          Storage.held? .diagram (Storage.get .pending faulty).2 := rfl
    simp only [run_bind, readSlot_result, readSlot_afterCall, kept, keptToo]
    cases Storage.held? .diagram (Storage.get .pending faulty).2 with
    | some xml => exact second.restore xml
    | none => exact ⟨_, second.loadTemplate⟩

end Abreast

namespace Session

variable [ReliableStorage σ]

/-- **A save** over a storage whose calls may fail gives back the document. If none failed, it is
like any save; if one did, then that is said, and nothing else is as after a save. -/
theorem save_faulty (session : Session σ) (faulty : τ) (stamp : String) :
    let failing := session.onStorage faulty
    let calls := failing.calls (.save stamp)
    let made := SlotCall.makeAll faulty calls
    (save stamp failing).1 = (save stamp session).1 ∧
    (made.1 = [] → ∃ told, Abreast session faulty calls told (session.act (.save stamp))
      (failing.act (.save stamp))) ∧
    ∀ fault ∈ made.1, made.1 = [fault] ∧
      session.act (.save stamp) = { session with
        storage := (session.act (.save stamp)).storage
        phase := .saved
        board := session.board.post .success "Diagram saved successfully!" } ∧
      failing.act (.save stamp) = { failing with
        storage := made.2
        board := session.board.post .error s!"Failed to save diagram: {fault.message}" } := by
  intro failing calls made
  have canvas : failing.canvas = session.canvas := rfl
  cases done : session.canvas.saveXml with
  | error refusal =>
    have idle : calls = [] := by simp only [calls, Session.calls, canvas, done]
    have quiet : made.1 = [] := by simp only [made, idle, SlotCall.makeAll]
    obtain ⟨told, step⟩ := (Abreast.start session faulty).refuse (α := String)
      "Failed to save diagram" refusal
    simp only [act, save, run_bind, get_run, canvas, done, idle, quiet]
    exact ⟨step.result, fun _ => ⟨told, step.abreast⟩,
      fun _ member => absurd member List.not_mem_nil⟩
  | ok xml =>
    have called : calls = failing.saveCalls xml stamp := by
      simp only [calls, Session.calls, canvas, done]
    have kept := (keepSaved_kept xml stamp session).1
    obtain ⟨working, _⟩ := keepSaved_eq xml stamp session
    obtain ⟨after, faults⟩ := keepSaved_eq xml stamp failing
    rw [← called] at after faults
    simp only [act, save, run_bind, get_run, canvas, done, kept, working, after]
    cases result : (keepSaved xml stamp failing).1 with
    | ok =>
      have quiet : made.1 = [] := faults.trans (by rw [result]; rfl)
      have kept : Abreast session faulty calls []
          { session with
            storage := (SlotCall.makeAll session.storage (session.saveCalls xml stamp)).2 }
          { failing with storage := made.2 } :=
        { Abreast.start session faulty with
          storage := rfl
          reported := by rw [quiet]; rfl }
      refine ⟨rfl, fun _ => ⟨_, (kept.enter .saved).inform _ _⟩, fun fault member => ?_⟩
      rw [quiet] at member
      exact absurd member List.not_mem_nil
    | error fault =>
      have failed : made.1 = [fault] := faults.trans (by rw [result]; rfl)
      refine ⟨rfl, fun quiet => ?_, fun other member => ?_⟩
      · rw [failed] at quiet
        cases quiet
      · rw [failed] at member
        obtain rfl := List.mem_singleton.mp member
        exact ⟨failed, rfl, rfl⟩

/-- **Faults of the storage stay aside.** Take any session over a storage that never fails, any
storage from which the same is read, where a slot that cannot be read counts as empty, and any
action. Over the other storage, any of the calls may fail. The action gives back the same, and
unless it is a save that failed, it leads to the same document, the same selection and the same
phase; each call that failed, and nothing else, adds one notice before the others. A save with a
call that failed leaves everything but the storage as it was, and puts up a notice about this call
in place of the one that says it went well. -/
theorem faults_stay_aside (session : Session σ) (faulty : τ) (action : Action)
    (pending : content .pending session.storage = Storage.held? .pending faulty)
    (diagram : content .diagram session.storage =
      Storage.held? .diagram (Storage.get .pending faulty).2) :
    let failing := session.onStorage faulty
    let calls := failing.calls action
    let made := SlotCall.makeAll faulty calls
    failing.answer action = session.answer action ∧
    ((∀ stamp, action = .save stamp → made.1 = []) →
      ∃ told, Abreast session faulty calls told (session.act action) (failing.act action)) ∧
    ∀ stamp, action = .save stamp → ∀ fault ∈ made.1, made.1 = [fault] ∧
      session.act action = { session with
        storage := (session.act action).storage
        phase := .saved
        board := session.board.post .success "Diagram saved successfully!" } ∧
      failing.act action = { failing with
        storage := made.2
        board := session.board.post .error s!"Failed to save diagram: {fault.message}" } := by
  intro failing calls made
  have start := Abreast.start session faulty
  cases action with
  | save stamp =>
    obtain ⟨result, quiet, failed⟩ := save_faulty session faulty stamp
    refine ⟨congrArg Answer.text result, fun none => quiet (none stamp rfl), ?_⟩
    intro _ _ fault member
    exact failed fault member
  | opening opening =>
    have step : ∃ told,
        InStep session faulty calls told (opening.run session) (opening.run failing) := by
      cases opening with
      | load => exact Abreast.load pending diagram
      | createNew => exact start.createNew
      | importProcess plan => exact start.importProcess plan
      | importDiagram xml => exact start.importDiagram xml
    obtain ⟨told, step⟩ := step
    exact ⟨congrArg Answer.phase step.result, fun _ => ⟨told, step.abreast⟩, nofun⟩
  | exportXml =>
    obtain ⟨told, step⟩ := start.exportXml
    exact ⟨congrArg Answer.text step.result, fun _ => ⟨told, step.abreast⟩, nofun⟩
  | jsonView =>
    have step := start.jsonView
    exact ⟨congrArg Answer.summary step.result, fun _ => ⟨_, step.abreast⟩, nofun⟩
  | updateSelected patch =>
    obtain ⟨told, step⟩ := start.updateSelected patch
    exact ⟨congrArg Answer.changed step.result, fun _ => ⟨told, step.abreast⟩, nofun⟩
  | createShape kind =>
    obtain ⟨told, step⟩ := start.createShape kind
    exact ⟨congrArg Answer.shape step.result, fun _ => ⟨told, step.abreast⟩, nofun⟩
  | pump =>
    have step := start.pump
    exact ⟨congrArg Answer.count step.result, fun _ => ⟨_, step.abreast⟩, nofun⟩
  | handle event => exact ⟨rfl, fun _ => ⟨_, start.afterEvent event⟩, nofun⟩
  | edit xml => exact ⟨rfl, fun _ => ⟨_, { start with canvas := rfl }⟩, nofun⟩
  | report event => exact ⟨rfl, fun _ => ⟨_, { start with canvas := rfl }⟩, nofun⟩
  | refuse marker => exact ⟨rfl, fun _ => ⟨_, { start with canvas := rfl }⟩, nofun⟩
  | failSaves => exact ⟨rfl, fun _ => ⟨_, { start with canvas := rfl }⟩, nofun⟩
  | failCommands => exact ⟨rfl, fun _ => ⟨_, { start with canvas := rfl }⟩, nofun⟩

/-- A shelf with something in the slot of documents that is no document. -/
def garbledShelf : Shelf := ({} : Shelf).put .diagram (some "<b")

/-- A session over that shelf shows the template, whether the text can be removed or not. If not,
there is one notice more, and it is the first one. -/
theorem faults_stay_aside_garbled :
    let session := start {} "<t/>" garbledShelf
    let faulty : FaultyShelf := ⟨garbledShelf, fun call _ => call = .remove⟩
    let failing := session.onStorage faulty
    (failing.act (.opening .load)).canvas.current = some "<t/>" ∧
      ∃ told, (session.act (.opening .load)).board = session.board.putUp told ∧
        (failing.act (.opening .load)).board = session.board.putUp
          (⟨.error, "Storage unavailable: storage unavailable: flaky remove bpmn-diagram", 5000⟩ ::
            told) := by
  intro session faulty failing
  obtain ⟨_, aside, _⟩ := faults_stay_aside session faulty (.opening .load) rfl rfl
  obtain ⟨told, abreast⟩ := aside nofun
  have shown : (session.act (.opening .load)).canvas.current = some "<t/>" := by decide +kernel
  have faults : (SlotCall.makeAll faulty (failing.calls (.opening .load))).1 =
      [.refused "flaky remove bpmn-diagram"] := by decide +kernel
  have reported := abreast.reported
  rw [faults] at reported
  exact ⟨by rw [abreast.canvas, shown], told, abreast.noted, reported⟩

end Session

end LaneChart
