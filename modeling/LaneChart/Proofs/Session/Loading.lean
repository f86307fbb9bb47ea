/-
**Showing a document always ends well or says why.** Each of the four operations that show a
document either ends ready, with one more document on the canvas and nothing selected, or says that
the template was refused. Then the canvas and the selection are as before. The storage plays no
part in it: any of its calls may fail at any time.

* `Source`, `Opening`: what is to be shown, and the operations with it.
* `Opening.source?`: what an operation is to show, which for `Session.load` is in the storage.
* `Session.taken?`: the document of a source, when it can be read and the canvas takes it.
* `Session.Shows`, `Session.Stuck`: the two ways in which an operation ends.
* `Session.opening_converges`: every operation ends in one of them.
-/

import LaneChart.Proofs.Session.View
import LaneChart.Session.Loading

namespace LaneChart

/-! ### What is shown -/

/-- The canvas with a document on it whose elements have these ids. -/
def Canvas.showing (xml : String) (ids : List String) (canvas : Canvas) : Canvas :=
  { canvas with current := some xml, imports := canvas.imports ++ [xml], registry := ids }

/-- What is to be shown: the document of a plan, or a document as it is. -/
inductive Source where
  | plan (text : String)
  | document (xml : String)
deriving DecidableEq, Repr

/-- The document of a source, if it has one. -/
def Source.document? (settings : Settings) : Source → Option String
  | plan text => (Draft.ofPlan text).toOption.map settings.compile
  | document xml => some xml

/-- **The operations that show a document.** -/
inductive Opening where
  | load
  | createNew
  | importProcess (plan : String)
  | importDiagram (xml : String)
deriving DecidableEq, Repr

namespace Opening

variable {σ : Type} [Storage σ]

/-- The operation itself. -/
def run : Opening → Session.Run σ (Except SessionFault Phase)
  | load => Session.load
  | createNew => Session.createNew
  | importProcess plan => Session.importProcess plan
  | importDiagram xml => Session.importDiagram xml

/-- What waits in a storage: the plan, or else the document, which is looked for second. -/
def kept? (storage : σ) : Option Source :=
  match Storage.held? .pending storage with
  | some plan => some (.plan plan)
  | none => (Storage.held? .diagram (Storage.get .pending storage).2).map .document

/-- What an operation is to show. -/
def source? (storage : σ) : Opening → Option Source
  | load => kept? storage
  | createNew => none
  | importProcess plan => some (.plan plan)
  | importDiagram xml => some (.document xml)

end Opening

namespace Session

variable {σ : Type}

/-- The document of a source, when there is one and the canvas takes it. -/
def taken? (session : Session σ) (source : Source) : Option String :=
  (source.document? session.settings).filter fun xml => (session.canvas.inspect xml).isOk

/-- **An operation ended ready,** with a document shown and nothing selected. -/
structure Shows (before : Session σ) (xml : String) (after : Session σ) : Prop where
  phase : after.phase = .ready
  selected : after.selected = none
  canvas : ∃ ids, before.canvas.inspect xml = .ok ids ∧ after.canvas = before.canvas.showing xml ids

/-- **An operation ended with nothing to show.** What was on the canvas is still there. -/
structure Stuck (before after : Session σ) : Prop where
  phase : after.phase = .loading
  canvas : after.canvas = before.canvas
  selected : after.selected = before.selected

/-- The document that an operation ended with is the one on the canvas. -/
theorem Shows.current {before after : Session σ} {xml : String} (shows : Shows before xml after) :
    after.canvas.current = some xml := by
  obtain ⟨ids, _, canvas⟩ := shows.canvas
  rw [canvas]
  rfl

/-! ### How a document is shown -/

/-- How an operation ends that is to show a document: ready with that document or else with the
template, or with nothing new because it had no document and the template is refused. -/
def Lands (wanted : Option String) (before : Session σ) (result : Except SessionFault Phase)
    (after : Session σ) : Prop :=
  (result = .ok .ready ∧ before.Shows (wanted.getD before.template) after) ∨
    ∃ fault, result = .error (.templateRejected fault) ∧ wanted = none ∧
      before.canvas.inspect before.template = .error fault ∧ before.Stuck after

/-- Where an operation ends depends only on what is in view when it starts. -/
theorem Lands.of_sameView {wanted : Option String} {before between after : Session σ}
    {result : Except SessionFault Phase} (same : SameView before between)
    (lands : Lands wanted between result after) : Lands wanted before result after := by
  rcases lands with ⟨ready, shows⟩ | ⟨fault, failed, nothing, refused, stuck⟩
  · obtain ⟨ids, taken, canvas⟩ := shows.canvas
    rw [same.canvas, same.template] at taken
    rw [same.canvas, same.template] at canvas
    exact .inl ⟨ready, shows.phase, shows.selected, ids, taken, canvas⟩
  · rw [same.canvas, same.template] at refused
    exact .inr ⟨fault, failed, nothing, refused, stuck.phase, stuck.canvas.trans same.canvas,
      stuck.selected.trans same.selected⟩

/-- An operation that has a document to show shows it. -/
theorem Lands.of_some {before after : Session σ} {xml : String}
    {result : Except SessionFault Phase} (lands : Lands (some xml) before result after) :
    result = .ok .ready ∧ after.canvas.current = some xml := by
  rcases lands with ⟨ready, shows⟩ | ⟨_, _, nothing, _⟩
  · exact ⟨ready, shows.current⟩
  · cases nothing

theorem show_taken {xml : String} {ids : List String} {session : Session σ}
    (taken : session.canvas.inspect xml = .ok ids) :
    «show» xml session = (.ok (), { session with canvas := session.canvas.showing xml ids }) := by
  rw [«show», Canvas.importXml, taken]
  rfl

theorem show_refused {xml : String} {fault : CanvasFault} {session : Session σ}
    (refused : session.canvas.inspect xml = .error fault) :
    «show» xml session = (.error fault, session) := by
  rw [«show», Canvas.importXml, refused]
  rfl

/-- **The template is shown when there is nothing better,** whatever happened before. -/
theorem loadTemplate_lands (session : Session σ) :
    Lands none session (loadTemplate session).1 (loadTemplate session).2 := by
  simp only [loadTemplate, run_bind, get_run, enter_run]
  cases taken : session.canvas.inspect session.template with
  | ok ids =>
    have shown : «show» session.template { session with phase := .loading } = _ := show_taken taken
    rw [shown]
    exact .inl ⟨rfl, rfl, rfl, ids, taken, rfl⟩
  | error fault =>
    have shown : «show» session.template { session with phase := .loading } = _ :=
      show_refused taken
    rw [shown]
    exact .inr ⟨fault, rfl, rfl, taken, rfl, rfl, rfl⟩

/-- An operation that has shown a document ends ready, whatever it did besides. -/
theorem lands_settle {xml : String} {ids : List String} {session between : Session σ}
    (taken : session.canvas.inspect xml = .ok ids)
    (shown : between.canvas = session.canvas.showing xml ids) :
    Lands (some xml) session (.ok (settle between).1) (settle between).2 :=
  .inl ⟨rfl, rfl, rfl, ids, taken, shown⟩

/-! ### Sources -/

/-- A source gives the same document. -/
theorem SameView.taken {before after : Session σ} (same : SameView before after) (source : Source) :
    after.taken? source = before.taken? source := by
  rw [taken?, taken?, same.settings, same.canvas]

theorem taken_eq_some {source : Source} {session : Session σ} {xml : String}
    {ids : List String} (document : source.document? session.settings = some xml)
    (taken : session.canvas.inspect xml = .ok ids) : session.taken? source = some xml := by
  rw [taken?, document, Option.filter_some, taken]
  rfl

theorem taken_eq_none {source : Source} {session : Session σ} {xml : String} {fault : CanvasFault}
    (document : source.document? session.settings = some xml)
    (refused : session.canvas.inspect xml = .error fault) : session.taken? source = none := by
  rw [taken?, document, Option.filter_some, refused]
  rfl

/-- A plan is shown exactly when its document can be taken. -/
theorem showPlan_eq (plan : String) (session : Session σ) :
    (∃ xml ids, session.taken? (.plan plan) = some xml ∧ session.canvas.inspect xml = .ok ids ∧
      showPlan plan session =
        (.ok xml, { session with canvas := session.canvas.showing xml ids })) ∨
    (session.taken? (.plan plan) = none ∧
      ∃ refusal, showPlan plan session = (.error refusal, session)) := by
  cases read : Draft.ofPlan plan with
  | error fault =>
    have document : (Source.plan plan).document? session.settings = none := by
      rw [Source.document?, read]
      rfl
    refine .inr ⟨by rw [taken?, document, Option.filter_none], .plan fault, ?_⟩
    rw [showPlan, read]
    rfl
  | ok draft =>
    have document : (Source.plan plan).document? session.settings =
        some (session.settings.compile draft) := by
      rw [Source.document?, read]
      rfl
    cases taken : session.canvas.inspect (session.settings.compile draft) with
    | ok ids =>
      refine .inl ⟨_, ids, taken_eq_some document taken, taken, ?_⟩
      simp only [showPlan, read, run_bind, get_run, show_taken taken]
      rfl
    | error fault =>
      refine .inr ⟨taken_eq_none document taken, .canvas fault, ?_⟩
      simp only [showPlan, read, run_bind, get_run, show_refused taken]
      rfl

/-! ### The operations -/

theorem importDiagram_lands (xml : String) (session : Session σ) :
    Lands (session.taken? (.document xml)) session (importDiagram xml session).1
      (importDiagram xml session).2 := by
  have entered := sameView_enter .loading session
  cases taken : session.canvas.inspect xml with
  | ok ids =>
    have wanted : session.taken? (.document xml) = some xml := taken_eq_some rfl taken
    have shown : «show» xml { session with phase := .loading } = _ := show_taken taken
    simp only [importDiagram, run_bind, pure_run, enter_run, shown, wanted]
    exact lands_settle taken (sameView_inform _ _ _).canvas
  | error fault =>
    have wanted : session.taken? (.document xml) = none := taken_eq_none rfl taken
    have shown : «show» xml { session with phase := .loading } = _ := show_refused taken
    simp only [importDiagram, run_bind, enter_run, shown, wanted]
    exact (loadTemplate_lands _).of_sameView (entered.trans (sameView_inform _ _ _))

theorem createNew_lands (session : Session σ) :
    Lands none session (createNew session).1 (createNew session).2 := by
  rw [createNew, run_bind]
  rcases loadTemplate_lands session with ⟨ready, shows⟩ | ⟨fault, failed, stuck⟩
  · rw [ready]
    exact .inl ⟨rfl, shows.phase, shows.selected, shows.canvas⟩
  · rw [failed]
    exact .inr ⟨fault, rfl, stuck⟩

variable [Storage σ]

theorem importProcess_lands (plan : String) (session : Session σ) :
    Lands (session.taken? (.plan plan)) session (importProcess plan session).1
      (importProcess plan session).2 := by
  have entered := sameView_enter .loading session
  have same : (enter .loading session).2.taken? (.plan plan) = session.taken? (.plan plan) :=
    entered.taken _
  rcases showPlan_eq plan (enter .loading session).2 with
    ⟨xml, ids, wanted, taken, shown⟩ | ⟨wanted, refusal, shown⟩
  · rw [same] at wanted
    simp only [importProcess, run_bind, pure_run, shown, wanted]
    exact lands_settle taken ((sameView_keep _ _ _).trans (sameView_inform _ _ _)).canvas
  · rw [same] at wanted
    simp only [importProcess, run_bind, shown, wanted]
    exact (loadTemplate_lands _).of_sameView (entered.trans (sameView_inform _ _ _))

theorem loadPending_lands (plan : String) (session : Session σ) :
    Lands (session.taken? (.plan plan)) session (loadPending plan session).1
      (loadPending plan session).2 := by
  rcases showPlan_eq plan session with ⟨xml, ids, wanted, taken, shown⟩ | ⟨wanted, refusal, shown⟩
  · simp only [loadPending, run_bind, pure_run, shown, wanted]
    exact lands_settle taken (((sameView_keep _ _ _).trans (sameView_clearSlot _ _)).trans
      (sameView_inform _ _ _)).canvas
  · simp only [loadPending, run_bind, shown, wanted]
    exact (loadTemplate_lands _).of_sameView
      ((sameView_clearSlot _ _).trans (sameView_inform _ _ _))

theorem restore_lands (xml : String) (session : Session σ) :
    Lands (session.taken? (.document xml)) session (restore xml session).1
      (restore xml session).2 := by
  cases taken : session.canvas.inspect xml with
  | ok ids =>
    have wanted : session.taken? (.document xml) = some xml := taken_eq_some rfl taken
    simp only [restore, run_bind, pure_run, show_taken taken, wanted]
    exact lands_settle taken (sameView_inform _ _ _).canvas
  | error fault =>
    have wanted : session.taken? (.document xml) = none := taken_eq_none rfl taken
    simp only [restore, run_bind, show_refused taken, wanted]
    exact (loadTemplate_lands _).of_sameView
      ((sameView_clearSlot _ _).trans (sameView_inform _ _ _))

/-- The plan comes first, then the document, then the template. -/
theorem load_lands (session : Session σ) :
    Lands ((Opening.kept? session.storage).bind session.taken?) session (load session).1
      (load session).2 := by
  have first := (sameView_enter .loading session).trans (sameView_readSlot .pending _)
  have storage : (enter .loading session).2.storage = session.storage := rfl
  simp only [load, run_bind, readSlot_result, storage, Opening.kept?]
  cases Storage.held? .pending session.storage with
  | some plan =>
    have lands := loadPending_lands plan (readSlot .pending (enter .loading session).2).2
    rw [first.taken] at lands
    exact lands.of_sameView first
  | none =>
    have second := first.trans (sameView_readSlot .diagram _)
    simp only [run_bind, readSlot_result, readSlot_storage, storage]
    cases Storage.held? .diagram (Storage.get .pending session.storage).2 with
    | some xml =>
      have lands := restore_lands xml (readSlot .diagram
        (readSlot .pending (enter .loading session).2).2).2
      rw [second.taken] at lands
      exact lands.of_sameView second
    | none => exact (loadTemplate_lands _).of_sameView second

/-- Every operation ends with the document it was to show, or else with the template. -/
theorem opening_lands (opening : Opening) (session : Session σ) :
    Lands ((opening.source? session.storage).bind session.taken?) session (opening.run session).1
      (opening.run session).2 := by
  cases opening with
  | load => exact load_lands session
  | createNew => exact createNew_lands session
  | importProcess plan => exact importProcess_lands plan session
  | importDiagram xml => exact importDiagram_lands xml session

/-- **Every operation that shows a document converges.** It ends ready with the document that was
to be shown if that could be taken, and with the template otherwise; or it says that the template
was refused, which is so exactly when there was nothing better either, and then nothing that was
shown is lost. -/
theorem opening_converges (opening : Opening) (session : Session σ) :
    let wanted := (opening.source? session.storage).bind session.taken?
    let result := (opening.run session).1
    let after := (opening.run session).2
    ((result = .ok .ready ∧ session.Shows (wanted.getD session.template) after) ∨
      ∃ fault, result = .error (.templateRejected fault) ∧
        session.canvas.inspect session.template = .error fault ∧ session.Stuck after) ∧
    ((∃ fault, result = .error (.templateRejected fault)) ↔
      wanted = none ∧ (session.canvas.inspect session.template).isOk = false) := by
  intro wanted result after
  have lands : Lands wanted session result after := opening_lands opening session
  rcases lands with ⟨ready, shows⟩ | ⟨fault, failed, nothing, refused, stuck⟩
  · refine ⟨.inl ⟨ready, shows⟩, ?_, ?_⟩
    · rintro ⟨fault, failed⟩
      rw [ready] at failed
      cases failed
    · rintro ⟨nothing, refused⟩
      obtain ⟨ids, taken, _⟩ := shows.canvas
      rw [nothing, Option.getD_none] at taken
      rw [taken] at refused
      cases refused
  · refine ⟨.inr ⟨fault, failed, refused, stuck⟩, fun _ => ⟨nothing, ?_⟩, fun _ => ⟨fault, failed⟩⟩
    rw [refused]
    rfl

end Session

end LaneChart
