/-
**A plan that is staged reaches the editor.** The desk and the session read and compile the same
plan at different times, with the storage between them. They agree: what the next session shows and
keeps is the document that the desk answers, and no plan that was accepted is dropped.

* `Desk.staged_plan_is_shown`: staging and then loading.

Both sides are known from the draft of the plan: what the desk does with it (`Desk.stagePlan_run`),
and what a session does with a plan that waits (`Session.load_pending_taken`).
-/

import LaneChart.Proofs.Desk.Answers
import LaneChart.Proofs.Session.Reliable

namespace LaneChart

open ReliableStorage

variable {σ : Type}

namespace Desk

variable [ReliableStorage σ]

/-- **A staged plan reaches the editor exactly as the desk compiles it.** If a plan is staged, the
next session over the storage loads it: the session is ready, it shows and keeps the document that
compiling the plan answers, no plan waits any longer, and the one notice says so. If it is not
staged, the slots are as before, and compiling the plan fails with the same message. -/
theorem staged_plan_is_shown (settings : Settings) (template plan : String) (storage : σ)
    (canvas : Canvas) (plain : canvas.refused = []) :
    let desk : Desk σ := ⟨settings, storage⟩
    let staged := (stagePlan plan desk).2.storage
    let editor := { Session.start settings template staged with canvas := canvas }
    let loaded := Session.load editor
    match (stagePlan plan desk).1 with
    | .done _ =>
      ∃ xml, (∀ save, (compilePlan plan save desk).1 = .done xml) ∧
        loaded.1 = .ok .ready ∧ loaded.2.canvas.current = some xml ∧
        content .diagram loaded.2.storage = some xml ∧
        content .pending loaded.2.storage = none ∧
        loaded.2.board.notices = [⟨"note-1", "AI-generated diagram loaded successfully", .success,
          settings.notificationMs⟩]
    | .failed message =>
      content .pending staged = content .pending storage ∧
        content .diagram staged = content .diagram storage ∧
        ∀ save, (compilePlan plan save desk).1 = .failed message := by
  intro desk staged editor loaded
  have stagedRun := stagePlan_run plan desk
  have answers := fun save => compilePlan_answer plan save desk
  cases read : Draft.ofPlan plan with
  | error fault =>
    simp only [read] at stagedRun answers
    have unchanged : staged = storage := congrArg (·.2.storage) stagedRun
    rw [stagedRun, unchanged]
    exact ⟨rfl, rfl, answers⟩
  | ok draft =>
    simp only [read] at stagedRun answers
    have put : staged = (Storage.set .pending plan storage).2 := congrArg (·.2.storage) stagedRun
    have waiting : content .pending editor.storage = some plan := by
      show content .pending staged = some plan
      rw [put, content_set_self]
    have document : (Source.plan plan).document? editor.settings =
        some (settings.compile draft) := by
      rw [Source.document?, read]
      rfl
    have wanted : editor.taken? (.plan plan) = some (settings.compile draft) := by
      have taken : (canvas.inspect (settings.compile draft)).isOk = true :=
        (Canvas.isOk_inspect plain _).trans (settings.isOk_summarize_compile draft)
      rw [Session.taken?, document]
      exact Option.filter_eq_some_iff.mpr ⟨rfl, taken⟩
    obtain ⟨ready, shown, kept, idle, board⟩ := Session.load_pending_taken waiting wanted
    rw [stagedRun]
    refine ⟨settings.compile draft, answers, ready, shown, kept, idle, ?_⟩
    rw [board]
    exact Session.notices_start settings template staged _ _

/-- A plan in the middle of a sentence. -/
def quotedPlan : String := "Plan: \x7b\"elements\":[\x7b\"id\":\"a\"\x7d]\x7d ok"

/-- Such a plan is staged, and the next session shows its document. -/
theorem staged_plan_is_shown_quoted :
    ∃ xml, (∀ save, (compilePlan quotedPlan save ⟨{}, ({} : Shelf)⟩).1 = .done xml) ∧
      (Session.start {} blankDocument
        (stagePlan quotedPlan ⟨{}, ({} : Shelf)⟩).2.storage).load.1 = .ok .ready ∧
      (Session.start {} blankDocument
        (stagePlan quotedPlan ⟨{}, ({} : Shelf)⟩).2.storage).load.2.canvas.current = some xml := by
  have readable : (Draft.ofPlan quotedPlan).isOk = true := by decide +kernel
  -- From here on the plan only matters as one that can be read.
  generalize quotedPlan = plan at readable
  have arrives := staged_plan_is_shown {} blankDocument plan ({} : Shelf) {} rfl
  cases read : Draft.ofPlan plan with
  | error fault =>
    rw [read] at readable
    cases readable
  | ok draft =>
    have accepted := stagePlan_run plan ⟨{}, ({} : Shelf)⟩
    simp only [read] at accepted
    simp only [accepted] at arrives ⊢
    obtain ⟨xml, compiled, ready, shown, _⟩ := arrives
    exact ⟨xml, compiled, ready, shown⟩

end Desk

end LaneChart
