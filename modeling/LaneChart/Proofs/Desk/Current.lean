/-
**The slot of documents and what the user sees.** A plan that is shown and a document that is saved
are put into the slot of documents; a document that is imported as it is, is not. The desk and the
next session read the slot, and then they see another document than the user.

* `Session.UpToDate`: the slot holds what is on the canvas.
* `Session.presents`: an action that puts a document in front of the user, or saves it.
* `Session.Misses`: an action that leaves in the slot what is not on the canvas any more.
* `Session.load_pending_refused`: a plan that waits and cannot be shown.
* `Session.slot_is_current_iff`: the slot is up to date after an action exactly when it does not
  miss anything; then the desk and the next session see what the user sees.
-/

import LaneChart.Proofs.Desk.Answers
import LaneChart.Proofs.Session.Restart

namespace LaneChart

open ReliableStorage

variable {σ : Type}

/-! ### What is on the canvas and in the slot -/

namespace Session

/-- What is on the canvas when there is nothing to be shown but the template. -/
def fallback (session : Session σ) : Option String :=
  if (session.canvas.inspect session.template).isOk then some session.template
  else session.canvas.current

theorem Lands.of_none {session after : Session σ} {result : Except SessionFault Phase}
    (lands : Lands none session result after) : after.canvas.current = session.fallback := by
  rcases lands with ⟨_, shows⟩ | ⟨fault, _, _, refused, stuck⟩
  · obtain ⟨ids, taken, _⟩ := shows.canvas
    rw [Option.getD_none] at taken
    rw [fallback, taken, shows.current]
    rfl
  · rw [fallback, refused, stuck.canvas]
    rfl

variable [ReliableStorage σ]

/-- **The slot of documents holds what is on the canvas.** -/
def UpToDate (session : Session σ) : Prop :=
  content .diagram session.storage = session.canvas.current

/-- **An action puts a document in front of the user, or saves it:** a plan waits to be loaded, what
is imported is accepted, or a document can be saved. -/
def presents (session : Session σ) : Action → Bool
  | .opening .load => (content .pending session.storage).isSome
  | .opening (.importProcess plan) => (session.taken? (.plan plan)).isSome
  | .opening (.importDiagram xml) => (session.taken? (.document xml)).isSome
  | .save stamp => (save stamp session).1.isOk
  | _ => false

/-- **An action leaves in the slot what is not on the canvas any more:** it imports a document as it
is, or it finds a plan that cannot be shown, and the slot does not happen to hold what is shown
then. -/
def Misses (session : Session σ) : Action → Prop
  | .opening .load =>
    (content .pending session.storage).bind (session.taken? <| .plan ·) = none ∧
      content .diagram session.storage ≠ session.fallback
  | .opening (.importDiagram xml) => content .diagram session.storage ≠ some xml
  | _ => False

/-- **A plan that waits and cannot be shown** is dropped, and nothing is kept in its place. -/
theorem load_pending_refused {session : Session σ} {plan : String}
    (waiting : content .pending session.storage = some plan)
    (refused : session.taken? (.plan plan) = none) :
    (load session).2.canvas.current = session.fallback ∧
      content .diagram (load session).2.storage = content .diagram session.storage := by
  have same : session.looking.taken? (.plan plan) = none :=
    ((sameView_looking session).taken _).trans refused
  have run : load session = loadPending plan session.looking := by rw [load_run, waiting]
  have storage := loadPending_storage plan session.looking
  have lands := loadPending_lands plan session.looking
  rw [same] at storage lands
  rw [run, storage]
  exact ⟨(lands.of_sameView (sameView_looking session)).of_none,
    (content_remove_other Slot.noConfusion _).trans (content_looking _ _)⟩

theorem upToDate_load_iff {session : Session σ} {plan : String}
    (waiting : content .pending session.storage = some plan) :
    (session.act (.opening .load)).UpToDate ↔ ¬ session.Misses (.opening .load) := by
  have misses : session.Misses (.opening .load) ↔ session.taken? (.plan plan) = none ∧
      content .diagram session.storage ≠ session.fallback := by
    rw [Misses, waiting]
    rfl
  rw [misses]
  cases taken : session.taken? (.plan plan) with
  | some xml =>
    obtain ⟨_, shown, kept, _⟩ := load_pending_taken waiting taken
    exact ⟨fun _ => nofun, fun _ => kept.trans shown.symm⟩
  | none =>
    obtain ⟨shown, kept⟩ := load_pending_refused waiting taken
    rw [UpToDate, act, Opening.run, shown, kept]
    simp

theorem upToDate_importProcess {session : Session σ} {plan xml : String}
    (taken : session.taken? (.plan plan) = some xml) :
    (session.act (.opening (.importProcess plan))).UpToDate := by
  have storage := importProcess_storage plan session
  have lands := importProcess_lands plan session
  rw [taken] at storage lands
  rw [UpToDate, act, Opening.run, storage, lands.of_some.2]
  exact content_set_self _ _ _

/-- A document that is imported as it is, is shown and not kept. -/
theorem upToDate_importDiagram_iff {session : Session σ} {xml : String}
    (taken : (session.taken? (.document xml)).isSome) :
    (session.act (.opening (.importDiagram xml))).UpToDate ↔
      content .diagram session.storage = some xml := by
  have document : session.taken? (.document xml) = some xml := by
    obtain ⟨other, found⟩ := Option.isSome_iff_exists.mp taken
    obtain rfl : xml = other := Option.some.inj (Option.filter_eq_some_iff.mp found).1
    exact found
  have lands := importDiagram_lands xml session
  rw [document] at lands
  rw [UpToDate, act, Opening.run, importDiagram_storage, lands.of_some.2]

theorem upToDate_save {session : Session σ} {stamp : String}
    (done : (save stamp session).1.isOk) : (session.act (.save stamp)).UpToDate := by
  simp only [save, run_bind, get_run] at done
  cases shown : session.canvas.saveXml with
  | error fault =>
    rw [shown] at done
    cases done
  | ok xml =>
    obtain ⟨result, kept, canvas⟩ := keepSaved_kept xml stamp session
    simp only [UpToDate, act, save, run_bind, get_run, shown, result]
    have current : (keepSaved xml stamp session).2.canvas.current = some xml := by
      rw [canvas, current_of_saveXml shown]
    exact kept.trans current.symm

/-! ### Who reads the slot -/

/-- The desk and the next session see what is in the slot. -/
theorem UpToDate.seen {session : Session σ} {xml : String} (upToDate : session.UpToDate)
    (shown : session.canvas.current = some xml) :
    (∀ settings, (Desk.showDiagram ⟨settings, session.storage⟩).1 = .done xml) ∧
      (content .pending session.storage = none → (summarize xml).isOk = true →
        ∀ settings template,
          (load (start settings template session.storage)).2.canvas.current = some xml) := by
  have here : content .diagram session.storage = some xml := upToDate.trans shown
  refine ⟨fun settings => ?_, fun idle readable settings template => ?_⟩
  · rw [Desk.showDiagram_run, here]
  · exact (load_start_readable idle here readable).2.1

/-- **The slot is up to date** after every action that puts a document in front of the user or saves
it, unless it misses something: a document was imported as it is and was not in the slot already, or
a plan that waited could not be shown and something else was in the slot than what is shown instead.
As long as the slot is up to date, the desk answers the document on the canvas, and the next session
shows that document when no plan waits and the document can be summarized. -/
theorem slot_is_current_iff {session : Session σ} {action : Action}
    (presenting : session.presents action) :
    let after := session.act action
    (after.UpToDate ↔ ¬ session.Misses action) ∧
      (after.UpToDate → ∀ xml, after.canvas.current = some xml →
        (∀ settings, (Desk.showDiagram ⟨settings, after.storage⟩).1 = .done xml) ∧
        (content .pending after.storage = none → (summarize xml).isOk = true →
          ∀ settings template,
            (load (start settings template after.storage)).2.canvas.current = some xml)) := by
  intro after
  refine ⟨?_, fun upToDate xml shown => upToDate.seen shown⟩
  cases action with
  | opening opening =>
    cases opening with
    | load =>
      obtain ⟨plan, waiting⟩ := Option.isSome_iff_exists.mp presenting
      exact upToDate_load_iff waiting
    | createNew => exact Bool.noConfusion presenting
    | importProcess plan =>
      obtain ⟨xml, taken⟩ := Option.isSome_iff_exists.mp presenting
      exact ⟨fun _ => id, fun _ => upToDate_importProcess taken⟩
    | importDiagram xml => exact (upToDate_importDiagram_iff presenting).trans not_not.symm
  | save stamp => exact ⟨fun _ => id, fun _ => upToDate_save presenting⟩
  | _ => exact Bool.noConfusion presenting

/-- A run in which a document is edited and then saved. -/
def editedRun : List Action := [.opening (.importDiagram "<a/>"), .edit "<b/>"]

/-- After the save, the desk answers the document that was edited. -/
theorem slot_is_current_saved :
    let session := editedRun.foldl act (start {} blankDocument ({} : Shelf))
    session.presents (.save "") ∧ (session.act (.save "")).UpToDate ∧
      (Desk.showDiagram ⟨{}, (session.act (.save "")).storage⟩).1 = .done "<b/>" := by
  intro session
  have presenting : session.presents (.save "") := by decide +kernel
  obtain ⟨upToDate, seen⟩ := slot_is_current_iff presenting
  have current := upToDate.mpr id
  exact ⟨presenting, current, (seen current "<b/>" (by decide +kernel)).1 {}⟩

/-- **A document that is imported and not kept:** it is on the canvas, and the desk has none. -/
theorem import_is_not_kept :
    let session := start {} blankDocument ({} : Shelf)
    let after := session.act (.opening (.importDiagram "<a/>"))
    session.presents (.opening (.importDiagram "<a/>")) ∧ after.phase = .ready ∧
      after.canvas.current = some "<a/>" ∧ content .diagram after.storage = none ∧
      (Desk.showDiagram ⟨{}, after.storage⟩).1 =
        .failed "No diagram stored yet. Use compile_process with save=true to create one." := by
  intro session after
  exact ⟨by decide +kernel, by decide +kernel⟩

end Session

end LaneChart
