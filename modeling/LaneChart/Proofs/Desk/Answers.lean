/-
**What the desk answers to a plan.** Every tool that takes a plan reads it first, and says so when
it cannot. What follows depends on the draft alone, and the storage is called at the very end.

* `Desk.run_bind`, `Desk.callStorage_run`: how parts run.
* `Desk.normalizePlan_of_ofPlan`, `Desk.compilePlan_of_ofPlan`: a plan that can be read.
* `Desk.compilePlan_of_kept`, `Desk.stagePlan_of_kept`, `Desk.showDiagram_of_found`: the tools that
  call the storage, when the storage does what it is asked to.
* `Desk.compilePlan_answer`, `Desk.stagePlan_run`: any plan, over a storage that never fails;
  `Desk.showDiagram_run`: what was kept.
-/

import LaneChart.Desk.Basic
import LaneChart.Proofs.Session.Saving

namespace LaneChart.Desk

open ReliableStorage

variable {σ : Type}

theorem run_bind {α β : Type} (first : StateM (Desk σ) α) (next : α → StateM (Desk σ) β)
    (desk : Desk σ) : (first >>= next) desk = next (first desk).1 (first desk).2 := rfl

theorem get_run (desk : Desk σ) : (get : StateM (Desk σ) (Desk σ)) desk = (desk, desk) := rfl

theorem callStorage_run {α : Type} (call : StateM σ (Except StorageFault α)) (desk : Desk σ) :
    callStorage call desk =
      ((call desk.storage).1, { desk with storage := (call desk.storage).2 }) := rfl

/-! ### Plans that can be read -/

/-- **Placing** answers the placed workflow, and what was changed. -/
theorem normalizePlan_of_ofPlan {plan : String} {draft : Draft}
    (read : Draft.ofPlan plan = .ok draft) (settings : Settings) :
    normalizePlan settings plan = .done (placementJson (settings.lanes.place draft)
      (settings.lanes.placeWithReport draft).2).pretty := by
  rw [normalizePlan, read]
  rfl

/-- **Compiling** answers the document of the draft. It is the only thing that is kept, and a
document that could not be kept is not answered. -/
theorem compilePlan_of_ofPlan [Storage σ] {plan : String} {draft : Draft}
    (read : Draft.ofPlan plan = .ok draft) (save : Bool) (desk : Desk σ) :
    compilePlan plan save desk =
      let xml := desk.settings.compile draft
      let stored := Storage.set .diagram xml desk.storage
      if save then
        (match stored.1 with
          | .ok () => .done xml
          | .error fault => .failed s!"Compiled, but failed to store diagram: {fault.message}",
          { desk with storage := stored.2 })
      else (.done xml, desk) := by
  rw [compilePlan, read]
  cases save with
  | false => rfl
  | true =>
    simp only [run_bind, get_run, if_true, callStorage_run]
    cases (Storage.set .diagram (desk.settings.compile draft) desk.storage).1 <;> rfl

/-! ### Calls that go well -/

/-- **Compiling any plan,** over a storage that keeps a document. -/
theorem compilePlan_of_kept [Storage σ] {desk : Desk σ}
    (kept : ∀ xml, (Storage.set .diagram xml desk.storage).1 = .ok ()) (plan : String)
    (save : Bool) :
    compilePlan plan save desk =
      match Draft.ofPlan plan with
      | .error fault => (noPlan fault, desk)
      | .ok draft =>
        let xml := desk.settings.compile draft
        (.done xml, if save then
          { desk with storage := (Storage.set .diagram xml desk.storage).2 } else desk) := by
  cases read : Draft.ofPlan plan with
  | error fault =>
    rw [compilePlan, read]
    rfl
  | ok draft =>
    simp only [compilePlan_of_ofPlan read, kept]
    cases save <;> rfl

/-- **Staging any plan,** over a storage that keeps it as it is. -/
theorem stagePlan_of_kept [Storage σ] {desk : Desk σ} {plan : String}
    (kept : (Storage.set .pending plan desk.storage).1 = .ok ()) :
    stagePlan plan desk =
      match Draft.ofPlan plan with
      | .error fault => (noPlan fault, desk)
      | .ok draft =>
        (.done (s!"Staged process with {draft.elements.length} element(s). " ++
            "It will be loaded the next time the editor opens."),
          { desk with storage := (Storage.set .pending plan desk.storage).2 }) := by
  cases read : Draft.ofPlan plan with
  | error fault =>
    rw [stagePlan, read]
    rfl
  | ok draft =>
    simp only [stagePlan, read, run_bind, callStorage_run, kept]
    rfl

/-- **Showing** what a storage is found to hold. -/
theorem showDiagram_of_found [Storage σ] {desk : Desk σ} {found : Option String}
    (looked : (Storage.get .diagram desk.storage).1 = .ok found) :
    showDiagram desk =
      (found.elim (.failed
          "No diagram stored yet. Use compile_process with save=true to create one.") .done,
        { desk with storage := (Storage.get .diagram desk.storage).2 }) := by
  simp only [showDiagram, run_bind, callStorage_run, looked]
  cases found <;> rfl

/-! ### A storage that never fails -/

variable [ReliableStorage σ]

/-- Compiling answers the document of a plan that can be read, kept or not. -/
theorem compilePlan_answer (plan : String) (save : Bool) (desk : Desk σ) :
    (compilePlan plan save desk).1 =
      match Draft.ofPlan plan with
      | .error fault => noPlan fault
      | .ok draft => .done (desk.settings.compile draft) := by
  rw [compilePlan_of_kept fun xml => set_result .diagram xml desk.storage]
  cases Draft.ofPlan plan <;> rfl

/-- **Staging** puts a plan that can be read into its slot, as it is. -/
theorem stagePlan_run (plan : String) (desk : Desk σ) :
    stagePlan plan desk =
      match Draft.ofPlan plan with
      | .error fault => (noPlan fault, desk)
      | .ok draft =>
        (.done (s!"Staged process with {draft.elements.length} element(s). " ++
            "It will be loaded the next time the editor opens."),
          { desk with storage := (Storage.set .pending plan desk.storage).2 }) :=
  stagePlan_of_kept (set_result .pending plan desk.storage)

/-- **Showing** answers the document that was kept, and leaves it there. -/
theorem showDiagram_run (desk : Desk σ) :
    showDiagram desk =
      (match content .diagram desk.storage with
        | some xml => .done xml
        | none =>
          .failed "No diagram stored yet. Use compile_process with save=true to create one.",
        { desk with storage := (Storage.get .diagram desk.storage).2 }) := by
  rw [showDiagram_of_found (get_result .diagram desk.storage)]
  cases content .diagram desk.storage <;> rfl

end LaneChart.Desk
