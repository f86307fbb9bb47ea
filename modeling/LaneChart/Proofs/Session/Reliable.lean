/-
**Showing a document over a storage that never fails.** What the storage holds after an operation
and which notice it puts up follow from what the storage held before and from whether the document
was taken.

* `Settings.isOk_summarize_compile`, `Canvas.isOk_inspect`: which documents are taken.
* `Session.importProcess_storage`, `Session.loadPending_storage`, `Session.restore_storage`: the
  storage after an operation, whether its calls fail or not.
* `Session.readSlot_run`, `Session.keep_run`, `Session.clearSlot_run`: calls that never fail put up
  no notice; `Session.loadPending_board`, `Session.restore_board`: the notice of an operation.
* `Session.load_run`: what is shown first; `Session.load_pending_taken`, `Session.load_kept_taken`,
  `Session.load_kept_refused`: how loading ends.
-/

import LaneChart.Proofs.Diagram.RoundTrip
import LaneChart.Proofs.Session.Saving

namespace LaneChart

variable {σ : Type}

/-! ### What a canvas takes -/

/-- The document of a draft can be summarized. -/
theorem Settings.isOk_summarize_compile (settings : Settings) (draft : Draft) :
    (summarize (settings.compile draft)).isOk = true := by
  rw [compile, Workflow.summarize_document]
  rfl

theorem toList_append_eq {front last : String} {chars more : List Char}
    (lastIs : last.toList = more) (frontIs : front.toList = chars) :
    (front ++ last).toList = chars ++ more := by
  rw [String.toList_append, frontIs, lastIs]

/-- The blank diagram can be summarized. -/
theorem isOk_summarize_blankDocument : (summarize blankDocument).isOk = true := by
  have spelled : ∃ chars, blankDocument.toList = chars ∧ (summarizeChars chars).isOk = true := by
    unfold blankDocument declaration
    apply Exists.intro
    constructor
    · -- One literal after the other: no character of the whole text has to be decoded.
      iterate 18 apply toList_append_eq String.toList_ofList
      exact String.toList_ofList
    · decide +kernel
  obtain ⟨chars, same, readable⟩ := spelled
  rw [summarize, same]
  exact readable

/-- A canvas without markers takes what can be summarized. -/
theorem Canvas.isOk_inspect {canvas : Canvas} (plain : canvas.refused = []) (xml : String) :
    (canvas.inspect xml).isOk = (summarize xml).isOk := by
  simp only [inspect, plain, List.find?_nil]
  cases summarize xml <;> rfl

/-! ### The calls -/

namespace ReliableStorage

variable [ReliableStorage σ]

theorem content_set_self (slot : Slot) (text : String) (storage : σ) :
    content slot (Storage.set slot text storage).2 = some text :=
  (content_set slot text slot storage).trans (if_pos rfl)

theorem content_set_other {slot other : Slot} (different : other ≠ slot) (text : String)
    (storage : σ) : content other (Storage.set slot text storage).2 = content other storage :=
  (content_set slot text other storage).trans (if_neg different)

theorem content_remove_self (slot : Slot) (storage : σ) :
    content slot (Storage.remove slot storage).2 = none :=
  (content_remove slot slot storage).trans (if_pos rfl)

theorem content_remove_other {slot other : Slot} (different : other ≠ slot) (storage : σ) :
    content other (Storage.remove slot storage).2 = content other storage :=
  (content_remove slot other storage).trans (if_neg different)

end ReliableStorage

namespace Session

open ReliableStorage

/-! ### Operations without calls -/

/-- Showing the template calls no storage and puts up no notice. -/
theorem loadTemplate_aside (session : Session σ) :
    (loadTemplate session).2.storage = session.storage ∧
      (loadTemplate session).2.board = session.board := by
  simp only [loadTemplate, run_bind, get_run, enter_run]
  cases taken : session.canvas.inspect session.template with
  | ok ids =>
    have shown : «show» session.template { session with phase := .loading } = _ := show_taken taken
    rw [shown]
    exact ⟨rfl, rfl⟩
  | error fault =>
    have shown : «show» session.template { session with phase := .loading } = _ :=
      show_refused taken
    rw [shown]
    exact ⟨rfl, rfl⟩

theorem createNew_storage (session : Session σ) :
    (createNew session).2.storage = session.storage := by
  rw [createNew, run_bind, ← (loadTemplate_aside session).1]
  cases (loadTemplate session).1 <;> rfl

theorem importDiagram_storage (xml : String) (session : Session σ) :
    (importDiagram xml session).2.storage = session.storage := by
  cases taken : session.canvas.inspect xml with
  | ok ids =>
    have shown : «show» xml { session with phase := .loading } = _ := show_taken taken
    simp only [importDiagram, run_bind, pure_run, enter_run, shown]
    rfl
  | error fault =>
    have shown : «show» xml { session with phase := .loading } = _ := show_refused taken
    simp only [importDiagram, run_bind, enter_run, shown]
    exact (loadTemplate_aside _).1

/-- The first notice of a session. -/
theorem notices_start (settings : Settings) (template : String) (storage : σ) (kind : NoticeKind)
    (message : String) :
    ((start settings template storage).board.post kind message).notices =
      [⟨"note-1", message, kind, settings.notificationMs⟩] := by
  have first : NoticeBoard.idOf 1 = "note-1" := by decide
  rw [NoticeBoard.notices, NoticeBoard.post_posted]
  show [Notice.mk (NoticeBoard.idOf 1) message kind settings.notificationMs] = _
  rw [first]

/-! ### What is left in a storage -/

section

variable [Storage σ]

/-- The document of a plan is kept when it is shown. -/
theorem importProcess_storage (plan : String) (session : Session σ) :
    (importProcess plan session).2.storage =
      match session.taken? (.plan plan) with
      | some xml => (Storage.set .diagram xml session.storage).2
      | none => session.storage := by
  have same : (enter .loading session).2.taken? (.plan plan) = session.taken? (.plan plan) :=
    (sameView_enter .loading session).taken _
  rcases showPlan_eq plan (enter .loading session).2 with
    ⟨xml, ids, wanted, _, shown⟩ | ⟨wanted, refusal, shown⟩
  · rw [← same, wanted]
    simp only [importProcess, run_bind, pure_run, shown]
    exact keep_storage .diagram xml _
  · rw [← same, wanted]
    simp only [importProcess, run_bind, shown]
    exact (loadTemplate_aside _).1

/-- A plan that waited is gone, and its document is kept when it is shown. -/
theorem loadPending_storage (plan : String) (session : Session σ) :
    (loadPending plan session).2.storage =
      match session.taken? (.plan plan) with
      | some xml => (Storage.remove .pending (Storage.set .diagram xml session.storage).2).2
      | none => (Storage.remove .pending session.storage).2 := by
  rcases showPlan_eq plan session with ⟨xml, ids, wanted, _, shown⟩ | ⟨wanted, refusal, shown⟩
  · rw [wanted]
    simp only [loadPending, run_bind, pure_run, shown]
    refine (clearSlot_storage .pending _).trans ?_
    rw [keep_storage]
  · rw [wanted]
    simp only [loadPending, run_bind, shown]
    exact (loadTemplate_aside _).1.trans (clearSlot_storage .pending _)

/-- A document that was kept is gone when it cannot be shown. -/
theorem restore_storage (xml : String) (session : Session σ) :
    (restore xml session).2.storage =
      match session.taken? (.document xml) with
      | some _ => session.storage
      | none => (Storage.remove .diagram session.storage).2 := by
  cases taken : session.canvas.inspect xml with
  | ok ids =>
    rw [taken_eq_some rfl taken]
    simp only [restore, run_bind, pure_run, show_taken taken]
    rfl
  | error fault =>
    rw [taken_eq_none rfl taken]
    simp only [restore, run_bind, show_refused taken]
    exact (loadTemplate_aside _).1.trans (clearSlot_storage .diagram _)

end

/-! ### Operations without faults -/

variable [ReliableStorage σ]

/-- Reading a slot. -/
theorem readSlot_run (slot : Slot) (session : Session σ) :
    readSlot slot session = (content slot session.storage,
      { session with storage := (Storage.get slot session.storage).2 }) := by
  rw [readSlot, run_bind, callStorage_run, get_result]
  rfl

/-- Putting a text into a slot. -/
theorem keep_run (slot : Slot) (text : String) (session : Session σ) :
    keep slot text session =
      ((), { session with storage := (Storage.set slot text session.storage).2 }) := by
  rw [keep, run_bind, callStorage_run, set_result]
  rfl

/-- Emptying a slot. -/
theorem clearSlot_run (slot : Slot) (session : Session σ) :
    clearSlot slot session =
      ((), { session with storage := (Storage.remove slot session.storage).2 }) := by
  rw [clearSlot, run_bind, callStorage_run, remove_result]
  rfl

/-- The notice about a plan that waited. -/
theorem loadPending_board (plan : String) (session : Session σ) :
    (loadPending plan session).2.board =
      match session.taken? (.plan plan) with
      | some _ => session.board.post .success "AI-generated diagram loaded successfully"
      | none =>
        session.board.post .warning
          "Failed to load AI diagram, loading a blank diagram instead" := by
  rcases showPlan_eq plan session with ⟨xml, ids, wanted, _, shown⟩ | ⟨wanted, refusal, shown⟩
  · rw [wanted]
    simp only [loadPending, run_bind, pure_run, shown, keep_run, clearSlot_run]
    rfl
  · rw [wanted]
    simp only [loadPending, run_bind, shown, clearSlot_run]
    exact (loadTemplate_aside _).2

/-- The notice about a document that was kept. -/
theorem restore_board (xml : String) (session : Session σ) :
    (restore xml session).2.board =
      match session.taken? (.document xml) with
      | some _ => session.board.post .success "Diagram loaded from storage"
      | none => session.board.post .warning
          "Failed to load saved diagram, loading a blank diagram instead" := by
  cases taken : session.canvas.inspect xml with
  | ok ids =>
    rw [taken_eq_some rfl taken]
    simp only [restore, run_bind, pure_run, show_taken taken]
    rfl
  | error fault =>
    rw [taken_eq_none rfl taken]
    simp only [restore, run_bind, show_refused taken, clearSlot_run]
    exact (loadTemplate_aside _).2

/-! ### Loading -/

/-- The session after it has looked into the slot of plans. -/
def looking (session : Session σ) : Session σ :=
  { session with phase := .loading, storage := (Storage.get .pending session.storage).2 }

/-- The session after it has looked into the slot of documents as well. -/
def lookingOn (session : Session σ) : Session σ :=
  { session.looking with storage := (Storage.get .diagram session.looking.storage).2 }

theorem sameView_looking (session : Session σ) : SameView session session.looking :=
  ⟨rfl, rfl, rfl, rfl⟩

theorem sameView_lookingOn (session : Session σ) : SameView session session.lookingOn :=
  ⟨rfl, rfl, rfl, rfl⟩

theorem content_looking (slot : Slot) (session : Session σ) :
    content slot session.looking.storage = content slot session.storage := content_get _ _ _

theorem content_lookingOn (slot : Slot) (session : Session σ) :
    content slot session.lookingOn.storage = content slot session.storage :=
  (content_get _ _ _).trans (content_looking slot session)

/-- **What is shown first.** -/
theorem load_run (session : Session σ) :
    load session =
      match content .pending session.storage with
      | some plan => loadPending plan session.looking
      | none =>
        match content .diagram session.storage with
        | some xml => restore xml session.lookingOn
        | none => loadTemplate session.lookingOn := by
  have first : readSlot .pending { session with phase := .loading } =
      (content .pending session.storage, session.looking) := readSlot_run _ _
  simp only [load, run_bind, enter_run, first]
  cases content .pending session.storage with
  | some plan => rfl
  | none =>
    have second : readSlot .diagram session.looking =
        (content .diagram session.storage, session.lookingOn) := by
      rw [readSlot_run, content_looking]
      rfl
    simp only [run_bind, second]
    cases content .diagram session.storage <;> rfl

/-- **A plan that waits and can be shown** is shown, kept as its document, and waits no longer. -/
theorem load_pending_taken {session : Session σ} {plan xml : String}
    (waiting : content .pending session.storage = some plan)
    (wanted : session.taken? (.plan plan) = some xml) :
    (load session).1 = .ok .ready ∧ (load session).2.canvas.current = some xml ∧
      content .diagram (load session).2.storage = some xml ∧
      content .pending (load session).2.storage = none ∧
      (load session).2.board =
        session.board.post .success "AI-generated diagram loaded successfully" := by
  have same : session.looking.taken? (.plan plan) = some xml :=
    ((sameView_looking session).taken _).trans wanted
  have run : load session = loadPending plan session.looking := by rw [load_run, waiting]
  have storage := loadPending_storage plan session.looking
  have board := loadPending_board plan session.looking
  have lands := loadPending_lands plan session.looking
  rw [same] at storage board lands
  rw [run, storage, board]
  obtain ⟨ready, shown⟩ := lands.of_some
  refine ⟨ready, shown, ?_, content_remove_self _ _, rfl⟩
  exact (content_remove_other Slot.noConfusion _).trans (content_set_self _ _ _)

/-- **A document that was kept and can be shown** is shown, and stays as it is. -/
theorem load_kept_taken {session : Session σ} {xml : String}
    (idle : content .pending session.storage = none)
    (kept : content .diagram session.storage = some xml)
    (wanted : session.taken? (.document xml) = some xml) :
    (load session).1 = .ok .ready ∧ (load session).2.canvas.current = some xml ∧
      content .diagram (load session).2.storage = some xml := by
  have same : session.lookingOn.taken? (.document xml) = some xml :=
    ((sameView_lookingOn session).taken _).trans wanted
  have run : load session = restore xml session.lookingOn := by
    simp only [load_run, idle, kept]
  have storage := restore_storage xml session.lookingOn
  have lands := restore_lands xml session.lookingOn
  rw [same] at storage lands
  rw [run, storage]
  obtain ⟨ready, shown⟩ := lands.of_some
  exact ⟨ready, shown, (content_lookingOn _ _).trans kept⟩

/-- **A document that was kept and cannot be shown** is kept no longer. The template is shown
instead if it can be, with a warning. -/
theorem load_kept_refused {session : Session σ} {xml : String}
    (idle : content .pending session.storage = none)
    (kept : content .diagram session.storage = some xml)
    (refused : session.taken? (.document xml) = none) :
    Lands none session (load session).1 (load session).2 ∧
      content .diagram (load session).2.storage = none ∧
      (load session).2.board = session.board.post .warning
        "Failed to load saved diagram, loading a blank diagram instead" := by
  have same : session.lookingOn.taken? (.document xml) = none :=
    ((sameView_lookingOn session).taken _).trans refused
  have run : load session = restore xml session.lookingOn := by
    simp only [load_run, idle, kept]
  have storage := restore_storage xml session.lookingOn
  have board := restore_board xml session.lookingOn
  have lands := restore_lands xml session.lookingOn
  rw [same] at storage board lands
  rw [run, storage, board]
  exact ⟨lands.of_sameView (sameView_lookingOn session), content_remove_self _ _, rfl⟩

end Session

end LaneChart
