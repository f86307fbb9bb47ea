/-
**A save can stop halfway.** Saving puts the document into its slot and then the time of the save
into another one. The second call to the storage can fail when the first one succeeded. Then the
new document stands beside the time of an older save, and the session says that saving failed. There
is no other way in which a save ends between everything and nothing.

* `Session.save_answer`: when a save hands back the document.
* `Session.save_ends`: the three ways in which it ends then.
* `Session.Saved`, `Session.Unsaved`: everything was saved, or nothing was.
* `Session.HalfSaves`: the document is written, the time is not, and that makes a difference.
* `Session.save_whole_iff`: a save is all or nothing exactly when it does not stop halfway.
-/

import LaneChart.Proofs.Session.Faults

namespace LaneChart

namespace Session

open FallibleStorage

variable {σ : Type}

/-! ### How a save ends -/

section

variable [Storage σ]

/-- **A save hands back the document** that the canvas hands out, whatever becomes of it in the
storage. -/
theorem save_answer (stamp : String) (session : Session σ) :
    (save stamp session).1 = session.canvas.saveXml.mapError .canvas := by
  simp only [save, run_bind, get_run]
  cases session.canvas.saveXml with
  | error fault => rfl
  | ok xml =>
    simp only [run_bind]
    cases (keepSaved xml stamp session).1 <;> rfl

theorem saveXml_of_save {session : Session σ} {xml stamp : String}
    (done : (save stamp session).1 = .ok xml) : session.canvas.saveXml = .ok xml := by
  rw [save_answer] at done
  cases shown : session.canvas.saveXml with
  | error fault =>
    rw [shown] at done
    cases done
  | ok other =>
    rw [shown] at done
    rw [Except.ok.inj done]

/-- What comes of the first call of a save. -/
def documentWritten (session : Session σ) (xml : String) : Except StorageFault Unit × σ :=
  Storage.set .diagram xml session.storage

/-- What comes of the second call of a save, if it is made. -/
def timeWritten (session : Session σ) (xml stamp : String) : Except StorageFault Unit × σ :=
  Storage.set .timestamp stamp (session.documentWritten xml).2

/-- **The three ways in which a save ends:** the document cannot be written, or the time of the save
cannot, or both are. The session is saved in the last case only. -/
theorem save_ends {session : Session σ} {xml stamp : String}
    (done : (save stamp session).1 = .ok xml) :
    ∃ board : NoticeBoard,
      ((session.documentWritten xml).1.isOk = false ∧ (save stamp session).2 =
          { session with storage := (session.documentWritten xml).2, board := board }) ∨
      ((session.documentWritten xml).1.isOk = true ∧
          (session.timeWritten xml stamp).1.isOk = false ∧ (save stamp session).2 =
          { session with storage := (session.timeWritten xml stamp).2, board := board }) ∨
      ((session.documentWritten xml).1.isOk = true ∧
          (session.timeWritten xml stamp).1.isOk = true ∧ (save stamp session).2 =
          { session with
            storage := (session.timeWritten xml stamp).2, board := board, phase := .saved }) := by
  have first : callStorage (Storage.set .diagram xml) session =
      ((session.documentWritten xml).1,
        { session with storage := (session.documentWritten xml).2 }) := rfl
  have second : callStorage (Storage.set .timestamp stamp)
      { session with storage := (session.documentWritten xml).2 } =
        ((session.timeWritten xml stamp).1,
          { session with storage := (session.timeWritten xml stamp).2 }) := rfl
  simp only [save, run_bind, get_run, saveXml_of_save done, keepSaved, first]
  cases (session.documentWritten xml).1 with
  | error fault => exact ⟨_, .inl ⟨rfl, rfl⟩⟩
  | ok =>
    simp only [second]
    cases (session.timeWritten xml stamp).1 with
    | error fault => exact ⟨_, .inr (.inl ⟨rfl, rfl, rfl⟩)⟩
    | ok => exact ⟨_, .inr (.inr ⟨rfl, rfl, rfl⟩)⟩

end

/-! ### All or nothing -/

variable [FallibleStorage σ]

/-- **Everything was saved:** the document is in its slot with the time of the save beside it. -/
structure Saved (xml stamp : String) (after : Session σ) : Prop where
  phase : after.phase = .saved
  document : content .diagram after.storage = some xml
  time : content .timestamp after.storage = some stamp

/-- **Nothing was saved:** the phase and both slots are as before. -/
structure Unsaved (before after : Session σ) : Prop where
  phase : after.phase = before.phase
  document : content .diagram after.storage = content .diagram before.storage
  time : content .timestamp after.storage = content .timestamp before.storage

/-- **A save stops halfway:** the document is written and the time is not. It makes a difference
unless the document was there already, or the session was saved at that very time. -/
structure HalfSaves (session : Session σ) (xml stamp : String) : Prop where
  written : (session.documentWritten xml).1.isOk = true
  untimed : (session.timeWritten xml stamp).1.isOk = false
  changed : content .diagram session.storage ≠ some xml
  later : ¬ (session.phase = .saved ∧ content .timestamp session.storage = some stamp)

/-- The slot of the document and the slot of the time after the first call of a save. -/
theorem content_documentWritten (session : Session σ) (xml : String) :
    content .diagram (session.documentWritten xml).2 =
        (if (session.documentWritten xml).1.isOk = true then some xml
          else content .diagram session.storage) ∧
      content .timestamp (session.documentWritten xml).2 = content .timestamp session.storage := by
  rw [documentWritten, content_set, content_set]
  simp

/-- The two slots after the second call. -/
theorem content_timeWritten (session : Session σ) (xml stamp : String) :
    content .diagram (session.timeWritten xml stamp).2 =
        content .diagram (session.documentWritten xml).2 ∧
      content .timestamp (session.timeWritten xml stamp).2 =
        if (session.timeWritten xml stamp).1.isOk = true then some stamp
          else content .timestamp session.storage := by
  rw [timeWritten, content_set, content_set, (session.content_documentWritten xml).2]
  simp

/-- A save without the time leaves the new document beside the old time. -/
theorem content_save_untimed {session : Session σ} {xml : String} (stamp : String)
    (written : (session.documentWritten xml).1.isOk = true)
    (untimed : (session.timeWritten xml stamp).1.isOk = false) :
    content .diagram (session.timeWritten xml stamp).2 = some xml ∧
      content .timestamp (session.timeWritten xml stamp).2 =
        content .timestamp session.storage := by
  obtain ⟨document, time⟩ := session.content_timeWritten xml stamp
  rw [document, time, (session.content_documentWritten xml).1, written, untimed]
  exact ⟨rfl, rfl⟩

/-- **A save is all or nothing unless it stops halfway.** Take any storage in which every call may
fail, and a save that hands back a document. Afterwards the session is saved with the document and
the time in their slots, or its phase and both slots are as before, exactly when it is not so that
the document was written, the time could not be, and this made a difference. In that case the
new document stands beside the old time, and the phase is as before. -/
theorem save_whole_iff {session : Session σ} {xml stamp : String}
    (done : (save stamp session).1 = .ok xml) :
    let after := (save stamp session).2
    (Saved xml stamp after ∨ Unsaved session after ↔ ¬ session.HalfSaves xml stamp) ∧
      (session.HalfSaves xml stamp → after.phase = session.phase ∧
        content .diagram after.storage = some xml ∧
        content .timestamp after.storage = content .timestamp session.storage) := by
  intro after
  obtain ⟨board, ⟨unwritten, ends⟩ | ⟨written, untimed, ends⟩ | ⟨written, timed, ends⟩⟩ :=
    save_ends done
  · -- The first call failed, so the second one was not made.
    have whole : ¬ session.HalfSaves xml stamp := fun half => by
      rw [half.written] at unwritten
      cases unwritten
    obtain ⟨document, time⟩ := session.content_documentWritten xml
    rw [unwritten, if_neg Bool.false_ne_true] at document
    have nothing : Unsaved session after := by
      rw [show after = _ from ends]
      exact ⟨rfl, document, time⟩
    exact ⟨iff_of_true (.inr nothing) whole, fun half => absurd half whole⟩
  · have same : after = _ := ends
    obtain ⟨document, time⟩ := content_save_untimed stamp written untimed
    rw [same]
    refine ⟨⟨?_, fun whole => ?_⟩, fun _ => ⟨rfl, document, time⟩⟩
    · rintro (saved | unsaved) half
      · exact half.later ⟨saved.phase, time.symm.trans saved.time⟩
      · exact half.changed (unsaved.document.symm.trans document)
    · -- The save made no difference to one of the two.
      by_cases changed : content .diagram session.storage = some xml
      · exact .inr ⟨rfl, document.trans changed.symm, time⟩
      · by_cases later : session.phase = .saved ∧ content .timestamp session.storage = some stamp
        · exact .inl ⟨later.1, document, time.trans later.2⟩
        · exact absurd ⟨written, untimed, changed, later⟩ whole
  · have whole : ¬ session.HalfSaves xml stamp := fun half => by
      rw [half.untimed] at timed
      cases timed
    obtain ⟨document, time⟩ := session.content_timeWritten xml stamp
    rw [(session.content_documentWritten xml).1, written, if_pos rfl] at document
    rw [timed, if_pos rfl] at time
    have everything : Saved xml stamp after := by
      rw [show after = _ from ends]
      exact ⟨rfl, document, time⟩
    exact ⟨iff_of_true (.inl everything) whole, fun half => absurd half whole⟩

/-- A session that shows a document over a shelf with an older one. The schedule is the one of the
calls to come. -/
def savingOver (fails : Nat → Bool) : Session ScheduledShelf :=
  let older := (({} : Shelf).put .diagram (some "<old/>")).put .timestamp (some "then")
  (start {} blankDocument ⟨older, fails⟩).act (.opening (.importDiagram "<a/>"))

/-- When the first call of a save fails, the older document stays with its time. -/
theorem save_whole_iff_unwritten :
    let session := savingOver (· = 0)
    let after := (save "now" session).2
    (save "now" session).1 = .ok "<a/>" ∧ ¬ session.HalfSaves "<a/>" "now" ∧
      (Saved "<a/>" "now" after ∨ Unsaved session after) ∧
      after.storage.shelf.content .diagram = some "<old/>" := by
  intro session after
  have done : (save "now" session).1 = .ok "<a/>" := rfl
  have unwritten : (session.documentWritten "<a/>").1.isOk = false := rfl
  have whole : ¬ session.HalfSaves "<a/>" "now" := fun half => by
    rw [half.written] at unwritten
    cases unwritten
  exact ⟨done, whole, (save_whole_iff done).1.mpr whole, rfl⟩

/-- **A save that stops halfway:** its second call fails. The older document is gone, its time is
still there, and the session is not saved. -/
theorem save_stops_halfway :
    let session := savingOver (· = 1)
    let after := (save "now" session).2
    (save "now" session).1 = .ok "<a/>" ∧ ¬ Saved "<a/>" "now" after ∧ ¬ Unsaved session after ∧
      after.phase = .ready ∧ after.storage.shelf.content .diagram = some "<a/>" ∧
      after.storage.shelf.content .timestamp = some "then" := by
  intro session after
  have phase : after.phase = .ready := rfl
  have document : content .diagram after.storage = some "<a/>" := rfl
  have older : content .diagram session.storage = some "<old/>" := rfl
  refine ⟨rfl, fun saved => ?_, fun unsaved => ?_, phase, document, rfl⟩
  · exact absurd (phase.symm.trans saved.phase) (by decide)
  · have same := unsaved.document
    rw [document, older] at same
    exact absurd same (by decide)

end Session

end LaneChart
