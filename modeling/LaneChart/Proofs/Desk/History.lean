/-
**The slots of a desk follow the history of its calls.** Over a folder that can be used, the
document that is shown is the one of the last plan that was compiled to be saved, and the plan that
waits is the last one that was staged. No other call changes a slot, and no other answer depends on
what was called before.

* `Exchange`, `Desk.history`: the calls to a desk with their answers.
* `Exchange.written?`, `lastWritten?`: what an exchange puts into a slot, and what a history does.
* `Desk.compilePlan_folder`, `Desk.stagePlan_folder`, `Desk.showDiagram_folder`: the tools that call
  the storage, over a folder that can be used.
* `Desk.use_desk`: what a call changes; `Desk.holds_use`, `Desk.holds_useAll`: what the slots hold
  after a call, and after a history.
* `Desk.slots_follow_history`: the whole.
-/

import LaneChart.Proofs.Desk.Answers
import LaneChart.Proofs.Slots.Folder

namespace LaneChart

/-! ### Histories -/

/-- **A call to a desk and its answer.** -/
structure Exchange where
  tool : Tool
  arguments : Json
  answer : Except ToolFault ToolAnswer

namespace Desk

variable {σ : Type} [Storage σ]

/-- A call with the answer that it gets. -/
def exchange (tool : Tool) (arguments : Json) (desk : Desk σ) : Exchange :=
  ⟨tool, arguments, (use tool arguments desk).1⟩

/-- The desk after calls that are made one after the other. -/
def useAll (desk : Desk σ) : List (Tool × Json) → Desk σ
  | [] => desk
  | (tool, arguments) :: rest => useAll (use tool arguments desk).2 rest

/-- **The history of such calls.** -/
def history (desk : Desk σ) : List (Tool × Json) → List Exchange
  | [] => []
  | (tool, arguments) :: rest =>
    desk.exchange tool arguments :: history (use tool arguments desk).2 rest

end Desk

/-- **What an exchange puts into a slot:** the document of a plan that was compiled to be saved, or
a plan that was staged, as it is, when all went well. -/
def Exchange.written? : Exchange → Option (Slot × String)
  | ⟨.compileProcess, arguments, .ok (.done xml)⟩ =>
    match Arguments.planAndSave arguments with
    | .ok (_, true) => some (.diagram, xml)
    | _ => none
  | ⟨.stageProcess, arguments, .ok (.done _)⟩ =>
    match Arguments.text "data" arguments with
    | .ok plan => some (.pending, plan)
    | .error _ => none
  | _ => none

/-- **What a history put into a slot last.** -/
def lastWritten? (slot : Slot) (history : List Exchange) : Option String :=
  (history.filterMap Exchange.written?).reverse.lookup slot

/-- What a slot holds after an exchange. -/
def Exchange.after (exchange : Exchange) (shelf : Shelf) : Shelf :=
  match exchange.written? with
  | some (slot, text) => shelf.put slot (some text)
  | none => shelf

theorem lastWritten_cons (slot : Slot) (exchange : Exchange) (history : List Exchange)
    (shelf : Shelf) :
    (lastWritten? slot (exchange :: history)).or (shelf.content slot) =
      (lastWritten? slot history).or ((exchange.after shelf).content slot) := by
  rw [lastWritten?, lastWritten?, Exchange.after]
  cases written : exchange.written? with
  | none => rw [List.filterMap_cons_none written]
  | some entry =>
    obtain ⟨other, text⟩ := entry
    rw [List.filterMap_cons_some written, List.reverse_cons, List.lookup_append, Option.or_assoc]
    refine congrArg _ ?_
    rw [lookup_cons_ite, Shelf.content_put]
    split <;> rfl

namespace Desk

/-! ### The tools that call the storage -/

variable {desk : Desk SlotFolder} {shelf : Shelf}

theorem set_folder (usable : desk.storage.Holds shelf) (slot : Slot) (text : String) :
    (Storage.set slot text desk.storage).1 = .ok () := by
  obtain ⟨disk, run, -⟩ := SlotFolder.set_run usable slot text
  exact congrArg Prod.fst run

/-- **Compiling** a plan that can be read answers its document, and keeps it if asked to. -/
theorem compilePlan_folder (usable : desk.storage.Holds shelf) (plan : String) (save : Bool) :
    compilePlan plan save desk =
      match Draft.ofPlan plan with
      | .error fault => (noPlan fault, desk)
      | .ok draft =>
        let xml := desk.settings.compile draft
        (.done xml, if save then
          { desk with storage := (SlotFolder.set .diagram xml desk.storage).2 } else desk) :=
  compilePlan_of_kept (set_folder usable .diagram) plan save

/-- **Staging** a plan that can be read keeps it as it is. -/
theorem stagePlan_folder (usable : desk.storage.Holds shelf) (plan : String) :
    stagePlan plan desk =
      match Draft.ofPlan plan with
      | .error fault => (noPlan fault, desk)
      | .ok draft =>
        (.done (s!"Staged process with {draft.elements.length} element(s). " ++
            "It will be loaded the next time the editor opens."),
          { desk with storage := (SlotFolder.set .pending plan desk.storage).2 }) :=
  stagePlan_of_kept (set_folder usable .pending plan)

/-- **Showing** answers the document that is kept, and changes nothing. -/
theorem showDiagram_folder (usable : desk.storage.Holds shelf) :
    showDiagram desk =
      (match shelf.content .diagram with
        | some xml => .done xml
        | none =>
          .failed "No diagram stored yet. Use compile_process with save=true to create one.",
        desk) := by
  have run : Storage.get .diagram desk.storage = (.ok (shelf.content .diagram), desk.storage) :=
    SlotFolder.get_run usable .diagram
  rw [showDiagram_of_found (congrArg Prod.fst run), run]
  cases shelf.content .diagram <;> rfl

/-! ### What a call changes -/

theorem withArguments_run {σ α : Type} [Storage σ] (arguments : Except Json.Mismatch α)
    (run : α → StateM (Desk σ) ToolAnswer) (desk : Desk σ) :
    withArguments arguments run desk =
      match arguments with
      | .error mismatch => (.error (.badArguments mismatch), desk)
      | .ok arguments => (.ok (run arguments desk).1, (run arguments desk).2) := by
  cases arguments <;> rfl

/-- **A call changes the desk** by what its exchange puts into a slot. -/
theorem use_desk (usable : desk.storage.Holds shelf) (tool : Tool) (arguments : Json) :
    (use tool arguments desk).2 =
      match (desk.exchange tool arguments).written? with
      | some (slot, text) => { desk with storage := (SlotFolder.set slot text desk.storage).2 }
      | none => desk := by
  cases tool with
  | normalizeProcess =>
    rw [use, withArguments_run]
    cases Arguments.text "data" arguments <;> rfl
  | compileProcess =>
    rw [exchange, use, withArguments_run, Exchange.written?.eq_def]
    cases read : Arguments.planAndSave arguments with
    | error mismatch => rfl
    | ok both =>
      obtain ⟨plan, save⟩ := both
      simp only [compilePlan_folder usable]
      cases Draft.ofPlan plan with
      | error fault => rfl
      | ok draft => cases save <;> simp [read]
  | summarizeBpmn =>
    rw [use, withArguments_run]
    cases Arguments.text "xml" arguments <;> rfl
  | getLanes => rfl
  | stageProcess =>
    rw [exchange, use, withArguments_run, Exchange.written?.eq_def]
    cases read : Arguments.text "data" arguments with
    | error mismatch => rfl
    | ok plan =>
      simp only [stagePlan_folder usable]
      cases Draft.ofPlan plan with
      | error fault => rfl
      | ok draft => simp [read]
  | getDiagram =>
    show (showDiagram desk).2 = _
    rw [showDiagram_folder usable]
    rfl

/-- **What the slots hold after a call.** -/
theorem holds_use (usable : desk.storage.Holds shelf) (tool : Tool) (arguments : Json) :
    (use tool arguments desk).2.settings = desk.settings ∧
      (use tool arguments desk).2.storage.Holds ((desk.exchange tool arguments).after shelf) := by
  rw [use_desk usable, Exchange.after]
  cases (desk.exchange tool arguments).written? with
  | none => exact ⟨rfl, usable⟩
  | some entry => exact ⟨rfl, usable.set entry.1 entry.2⟩

/-- **What the slots hold after a history:** what it put there last, or what they held before. -/
theorem holds_useAll (usable : desk.storage.Holds shelf) (calls : List (Tool × Json)) :
    (desk.useAll calls).settings = desk.settings ∧
      (desk.useAll calls).storage.Holds
        ⟨fun slot => (lastWritten? slot (desk.history calls)).or (shelf.content slot)⟩ := by
  induction calls generalizing desk shelf with
  | nil => exact ⟨rfl, usable⟩
  | cons call rest ih =>
    obtain ⟨tool, arguments⟩ := call
    obtain ⟨same, between⟩ := holds_use usable tool arguments
    obtain ⟨sameAfter, after⟩ := ih between
    refine ⟨sameAfter.trans same, ?_⟩
    simp only [history, lastWritten_cons]
    exact after

/-! ### What calls answer -/

/-- **Compiling** answers what the plan and the settings make of it. -/
theorem use_compileProcess (usable : desk.storage.Holds shelf) (arguments : Json) :
    (use .compileProcess arguments desk).1 =
      match Arguments.planAndSave arguments with
      | .error mismatch => .error (.badArguments mismatch)
      | .ok (plan, _) =>
        .ok (match Draft.ofPlan plan with
          | .error fault => noPlan fault
          | .ok draft => .done (desk.settings.compile draft)) := by
  rw [use, withArguments_run]
  cases Arguments.planAndSave arguments with
  | error mismatch => rfl
  | ok both =>
    simp only [compilePlan_folder usable]
    cases Draft.ofPlan both.1 <;> rfl

/-- **Placing, compiling, summarizing and showing the lanes** answer the same over any folder that
can be used. -/
theorem use_eq_of_settings {other : Desk SlotFolder} {held : Shelf}
    (usable : desk.storage.Holds shelf) (otherUsable : other.storage.Holds held)
    (same : other.settings = desk.settings) {tool : Tool}
    (slotless : tool ∈ [.normalizeProcess, .compileProcess, .summarizeBpmn, .getLanes])
    (arguments : Json) : (use tool arguments other).1 = (use tool arguments desk).1 := by
  cases tool with
  | normalizeProcess =>
    simp only [use, withArguments_run, run_bind, get_run, same]
    cases Arguments.text "data" arguments <;> rfl
  | compileProcess => rw [use_compileProcess usable, use_compileProcess otherUsable, same]
  | summarizeBpmn =>
    rw [use, withArguments_run, withArguments_run]
    cases Arguments.text "xml" arguments <;> rfl
  | getLanes =>
    show Except.ok (showLanes other.settings) = .ok (showLanes desk.settings)
    rw [same]
  | stageProcess => simp at slotless
  | getDiagram => simp at slotless

/-- A call that does not end well, compiling without saving, and looking at things put nothing into
a slot. -/
theorem written_eq_none {exchange : Exchange}
    (harmless : (∀ text, exchange.answer ≠ .ok (.done text)) ∨
      exchange.tool ∈ [.normalizeProcess, .summarizeBpmn, .getLanes, .getDiagram] ∨
      exchange.tool = .compileProcess ∧
        ∀ plan, Arguments.planAndSave exchange.arguments ≠ .ok (plan, true)) :
    exchange.written? = none := by
  obtain ⟨tool, arguments, answer⟩ := exchange
  rw [Exchange.written?.eq_def]
  split
  · rename_i xml is
    cases is
    split
    · rename_i plan saved
      rcases harmless with failed | reader | ⟨-, unsaved⟩
      · exact absurd rfl (failed xml)
      · simp at reader
      · exact absurd saved (unsaved plan)
    · rfl
  · rename_i text is
    cases is
    rcases harmless with failed | reader | ⟨compiled, -⟩
    · exact absurd rfl (failed text)
    · simp at reader
    · cases compiled
  · rfl

/-- **The slots follow the history.** After any calls to a desk over a folder that can be used:

* the document that is shown is the one that was answered when a plan was last compiled to be saved,
  or the one that was there at the start, or it is said that there is none;
* the plan that waits is the one that was last staged, as it is, or the one that was there;
* a call that does not end well, compiling without saving, and looking at things change nothing;
* placing, compiling, summarizing and showing the lanes answer what they do over any other folder
  with any other history, and compiling answers the same whether it saves or not. -/
theorem slots_follow_history (usable : desk.storage.Holds shelf) (calls : List (Tool × Json)) :
    let history := desk.history calls
    let after := desk.useAll calls
    (∀ arguments, (use .getDiagram arguments after).1 =
      .ok (match (lastWritten? .diagram history).or (shelf.content .diagram) with
        | some xml => .done xml
        | none =>
          .failed "No diagram stored yet. Use compile_process with save=true to create one.")) ∧
    (SlotFolder.get .pending after.storage).1 =
      .ok ((lastWritten? .pending history).or (shelf.content .pending)) ∧
    (∀ tool arguments,
      (∀ text, (use tool arguments after).1 ≠ .ok (.done text)) ∨
        tool ∈ [.normalizeProcess, .summarizeBpmn, .getLanes, .getDiagram] ∨
        tool = .compileProcess ∧ (∀ plan, Arguments.planAndSave arguments ≠ .ok (plan, true)) →
      (use tool arguments after).2 = after) ∧
    (∀ tool ∈ [Tool.normalizeProcess, .compileProcess, .summarizeBpmn, .getLanes], ∀ arguments,
      ∀ (other : Desk SlotFolder) (held : Shelf), other.storage.Holds held →
        other.settings = desk.settings → ∀ otherCalls,
        (use tool arguments (other.useAll otherCalls)).1 = (use tool arguments after).1) ∧
    ∀ plan save otherSave arguments otherArguments,
      Arguments.planAndSave arguments = .ok (plan, save) →
        Arguments.planAndSave otherArguments = .ok (plan, otherSave) →
        (use .compileProcess arguments after).1 = (use .compileProcess otherArguments after).1 := by
  intro history after
  obtain ⟨same, holds⟩ := holds_useAll usable calls
  refine ⟨fun arguments => ?_, ?_, fun tool arguments harmless => ?_, ?_, ?_⟩
  · show Except.ok (showDiagram after).1 = _
    rw [showDiagram_folder holds]
  · rw [SlotFolder.get_run holds]
  · rw [use_desk holds, written_eq_none harmless]
  · intro tool slotless arguments other held otherUsable otherSame otherCalls
    obtain ⟨sameAfter, otherHolds⟩ := holds_useAll otherUsable otherCalls
    exact use_eq_of_settings holds otherHolds (sameAfter.trans (otherSame.trans same.symm))
      slotless arguments
  · intro plan save otherSave arguments otherArguments read otherRead
    rw [use_compileProcess holds, use_compileProcess holds, read, otherRead]

/-- A desk over a folder in which a draft was left behind. -/
def deskWithStaleDraft : Desk SlotFolder := ⟨{}, SlotFolder.withStaleDraft⟩

/-- A plan is compiled to be saved and staged; what follows does not end well, or saves nothing. -/
def savedAndStaged : List (Tool × Json) :=
  let plan : String × Json := ("data", .text "\x7b\x7d")
  [(.compileProcess, .object [plan, ("save", .bool true)]), (.stageProcess, .object [plan]),
    (.stageProcess, .object [("data", .text "no plan")]), (.compileProcess, .object [plan]),
    (.compileProcess, .object [])]

theorem slots_follow_history_savedAndStaged :
    deskWithStaleDraft.storage.Holds {} ∧
      (∃ xml, (use .getDiagram (.object []) (deskWithStaleDraft.useAll savedAndStaged)).1 =
        .ok (.done xml)) ∧
      (SlotFolder.get .pending (deskWithStaleDraft.useAll savedAndStaged).storage).1 =
        .ok (some "\x7b\x7d") := by
  have usable : deskWithStaleDraft.storage.Holds {} := SlotFolder.fresh_withStaleDraft.holds
  obtain ⟨shown, waits, -⟩ := slots_follow_history usable savedAndStaged
  have saved :
      (lastWritten? .diagram (deskWithStaleDraft.history savedAndStaged)).isSome = true := by
    decide +kernel
  have staged : lastWritten? .pending (deskWithStaleDraft.history savedAndStaged) =
      some "\x7b\x7d" := by decide +kernel
  obtain ⟨xml, document⟩ := Option.isSome_iff_exists.mp saved
  refine ⟨usable, ⟨xml, ?_⟩, ?_⟩
  · rw [shown, document]
    rfl
  · rw [waits, staged]
    rfl

end Desk

end LaneChart
