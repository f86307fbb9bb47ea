/-
**A chain of patches follows the element.** The id of the selected element is known in two places:
the session has it in its selection, and the canvas among the ids of its elements. A patch may
change the id, and both places change with it, so the next patch finds the element again. This holds
for chains of any length, with ids that other elements have as well and with ids that are no change.

* `Session.follow`: patches one after the other, with the answer to each.
* `updatesOf`: the commands that a chain sends, read off the patches alone.
* `Session.Holds`: the selected element is on a canvas that takes commands.
* `Session.Patched`: what patches do to a session; `Session.patched_updateSelected` is the step and
  `Session.patched_follow` the run.
* `Session.chain_follows_element`: all patches are answered, and the element is known after each.
-/

import LaneChart.Proofs.Session.Saving

namespace LaneChart

/-! ### What a chain sends -/

/-- A patch without an id that the element has already. -/
def Patch.beside (patch : Patch) (id : String) : Patch :=
  { patch with id := patch.id.filter (· ≠ id) }

/-- **The commands of a chain of patches.** A patch is sent to the id that the patches before it
have left, and not at all when nothing of it is left. -/
def updatesOf (selection : Selection) : List Patch → List CanvasCommand
  | [] => []
  | patch :: rest =>
    (if (patch.beside selection.id).isEmpty then []
      else [.update selection.id (patch.beside selection.id)]) ++
      updatesOf (selection.apply patch) rest

/-- Leaving out an id that the element has makes no difference to the selection. -/
theorem Selection.apply_beside (selection : Selection) (patch : Patch) :
    selection.apply (patch.beside selection.id) = selection.apply patch := by
  obtain ⟨name, id⟩ := patch
  cases id with
  | none => rfl
  | some id =>
    by_cases same : id = selection.id
    · simp [Patch.beside, apply, same, Option.filter_some]
    · simp [Patch.beside, apply, same, Option.filter_some]

/-- A patch of which nothing is left changes nothing. -/
theorem Selection.apply_of_isEmpty {selection : Selection} {patch : Patch}
    (empty : patch.isEmpty = true) : selection.apply patch = selection := by
  obtain ⟨name, id⟩ := patch
  simp only [Patch.isEmpty, Bool.and_eq_true, Option.isNone_iff_eq_none] at empty
  rw [apply, empty.1, empty.2]
  rfl

namespace Canvas

/-- An id that replaces another one is there. -/
theorem mem_renamed {id new : String} {registry : List String} (known : id ∈ registry) :
    new ∈ renamed id new registry := by
  induction registry with
  | nil => cases known
  | cons entry rest ih =>
    rw [renamed]
    split
    · exact List.mem_cons_self
    · rename_i other
      have later : id ∈ rest := (List.mem_cons.mp known).resolve_left (Ne.symm other)
      exact List.mem_cons_of_mem _ (ih later)

/-- **A canvas that takes commands updates an element that it knows,** and knows it under its new
id. -/
theorem updateProperties_known {id : String} {canvas : Canvas}
    (known : canvas.hasElement id = true) (willing : canvas.failCommands = false) (patch : Patch) :
    ∃ changed : Canvas, canvas.updateProperties id patch = .ok changed ∧
      changed.hasElement (patch.id.getD id) = true ∧ changed.failCommands = false ∧
      changed.commands = canvas.commands ++ [.update id patch] ∧
      changed.outbox = canvas.outbox ++ [.commandRun] := by
  have listed : id ∈ canvas.registry := List.contains_iff_mem.mp known
  let changed : Canvas :=
    { canvas with
      registry := renamed id (patch.id.getD id) canvas.registry
      commands := canvas.commands ++ [.update id patch]
      outbox := canvas.outbox ++ [.commandRun] }
  have done : canvas.updateProperties id patch = .ok changed := by
    rw [updateProperties, if_neg (by simp [willing]), if_neg (by simp [known])]
    rfl
  exact ⟨changed, done, List.contains_iff_mem.mpr (mem_renamed listed), willing, rfl, rfl⟩

end Canvas

namespace Session

variable {σ : Type}

theorem reduced_eq (id : String) (patch : Patch) : reduced id patch = patch.beside id := by
  obtain ⟨name, other⟩ := patch
  cases other with
  | none => rfl
  | some other =>
    by_cases same : other = id
    · simp [reduced, Patch.beside, same, Option.filter_some]
    · simp [reduced, Patch.beside, same, Option.filter_some]

/-! ### Chains -/

/-- **Patches one after the other,** with the answer to each. Nothing is taken note of in
between. -/
def follow : List Patch → Run σ (List (Except SessionFault Bool))
  | [] => return []
  | patch :: rest => do
    let answer ← updateSelected patch
    return answer :: (← follow rest)

/-- **The selected element is on the canvas,** and the canvas takes commands. -/
structure Holds (session : Session σ) (selection : Selection) : Prop where
  selected : session.selected = some selection
  known : session.canvas.hasElement selection.id = true
  willing : session.canvas.failCommands = false

/-- **What patches do to a session:** the selected element is the one that they make of it, and the
canvas carried out their commands and reported each of them. -/
structure Patched (before : Session σ) (selection : Selection) (patches : List Patch)
    (after : Session σ) : Prop where
  holds : after.Holds (patches.foldl Selection.apply selection)
  commands : after.canvas.commands = before.canvas.commands ++ updatesOf selection patches
  outbox : after.canvas.outbox =
    before.canvas.outbox ++ List.replicate (updatesOf selection patches).length .commandRun

/-- Patches that follow others. -/
theorem Patched.cons {first second third : Session σ} {selection : Selection} {patch : Patch}
    {rest : List Patch} (front : Patched first selection [patch] second)
    (back : Patched second (selection.apply patch) rest third) :
    Patched first selection (patch :: rest) third where
  holds := back.holds
  commands := by
    rw [back.commands, front.commands, List.append_assoc]
    simp [updatesOf]
  outbox := by
    rw [back.outbox, front.outbox, List.append_assoc, List.replicate_append_replicate,
      ← List.length_append]
    simp [updatesOf]

/-- **A patch is answered and changes the element.** It is sent unless nothing of it is left. -/
theorem patched_updateSelected {session : Session σ} {selection : Selection}
    (holds : session.Holds selection) (patch : Patch) :
    (updateSelected patch session).1 = .ok true ∧
      Patched session selection [patch] (updateSelected patch session).2 := by
  simp only [updateSelected, run_bind, get_run, holds.selected, reduced_eq]
  cases empty : (patch.beside selection.id).isEmpty with
  | true =>
    have stays : selection.apply patch = selection := by
      rw [← selection.apply_beside, Selection.apply_of_isEmpty empty]
    have nothing : updatesOf selection [patch] = [] := by simp [updatesOf, empty]
    simp only [send_run, empty, if_true]
    refine ⟨rfl, ⟨?_, ?_, ?_⟩, ?_, ?_⟩
    · exact congrArg some (selection.apply_beside patch)
    · rw [List.foldl_cons, stays]
      exact holds.known
    · exact holds.willing
    · rw [nothing, List.append_nil]
      rfl
    · rw [nothing]
      exact (List.append_nil _).symm
  | false =>
    obtain ⟨changed, done, known, willing, commands, outbox⟩ :=
      Canvas.updateProperties_known holds.known holds.willing (patch.beside selection.id)
    have sent : updatesOf selection [patch] =
        [.update selection.id (patch.beside selection.id)] := by simp [updatesOf, empty]
    simp only [send_run, empty, done, Bool.false_eq_true, if_false]
    refine ⟨rfl, ⟨?_, ?_, willing⟩, ?_, ?_⟩
    · exact congrArg some (selection.apply_beside patch)
    · rw [List.foldl_cons, ← selection.apply_beside]
      exact known
    · rw [sent]
      exact commands
    · rw [sent]
      exact outbox

/-- **A chain of patches is answered and changes the element.** -/
theorem patched_follow (patches : List Patch) {session : Session σ} {selection : Selection}
    (holds : session.Holds selection) :
    (follow patches session).1 = List.replicate patches.length (.ok true) ∧
      Patched session selection patches (follow patches session).2 := by
  -- What carries the induction is that the canvas holds the element again, under its new id.
  induction patches generalizing session selection with
  | nil => exact ⟨rfl, holds, (List.append_nil _).symm, (List.append_nil _).symm⟩
  | cons patch rest ih =>
    obtain ⟨answer, front⟩ := patched_updateSelected holds patch
    obtain ⟨answers, back⟩ := ih front.holds
    refine ⟨?_, front.cons back⟩
    show (updateSelected patch session).1 :: (follow rest (updateSelected patch session).2).1 = _
    rw [answer, answers]
    rfl

/-- The session between the patches of a chain. -/
theorem follow_append (earlier later : List Patch) (session : Session σ) :
    (follow (earlier ++ later) session).2 = (follow later (follow earlier session).2).2 := by
  induction earlier generalizing session with
  | nil => rfl
  | cons patch earlier ih => exact ih (updateSelected patch session).2

/-- **A chain of patches follows the element.** Take any session whose selected element is on a
canvas that takes commands, and patches one after the other. Each is answered with success. The
element that is selected in the end is the one that all patches make of the first one, and after
every patch the canvas knows the one that is selected. The canvas carried out one command for every
patch of which something is left without an id that the element has already. It was for the id that
the patches before had left, and it was reported once. -/
theorem chain_follows_element {session : Session σ} {selection : Selection}
    (selected : session.selected = some selection)
    (known : session.canvas.hasElement selection.id = true)
    (willing : session.canvas.failCommands = false) (patches : List Patch) :
    let after := (follow patches session).2
    (follow patches session).1 = List.replicate patches.length (.ok true) ∧
      after.selected = some (patches.foldl Selection.apply selection) ∧
      (∀ earlier later, patches = earlier ++ later →
        let between := (follow earlier session).2
        after = (follow later between).2 ∧ ∃ current, between.selected = some current ∧
          between.canvas.hasElement current.id = true) ∧
      after.canvas.commands = session.canvas.commands ++ updatesOf selection patches ∧
      after.canvas.outbox = session.canvas.outbox ++
        List.replicate (updatesOf selection patches).length .commandRun := by
  intro after
  have holds : session.Holds selection := ⟨selected, known, willing⟩
  obtain ⟨answers, patched⟩ := patched_follow patches holds
  refine ⟨answers, patched.holds.selected, ?_, patched.commands, patched.outbox⟩
  rintro earlier later rfl between
  have there := (patched_follow earlier holds).2.holds
  exact ⟨follow_append earlier later session, _, there.selected, there.known⟩

/-- A run after which the first of two elements is selected. -/
def pickedRun : List Action :=
  [.opening (.importDiagram "<a><process><b id=\"x\"/><b id=\"y\"/></process></a>"),
    .report (.selectionChanged (some ⟨"x", "", "task", ""⟩)), .pump]

/-- Patches that give an element the id of another one, the same id again, and its own id back. -/
def thereAndBack : List Patch :=
  [⟨none, some "y"⟩, ⟨some "n", some "y"⟩, ⟨none, some "y"⟩, ⟨none, some "x"⟩]

/-- After such a run, these patches are answered. One of the four is not sent. -/
theorem chain_follows_element_twins :
    let session := pickedRun.foldl act (start {} blankDocument ({} : Shelf))
    let after := (follow thereAndBack session).2
    session.selected = some ⟨"x", "", "task", ""⟩ ∧ session.canvas.hasElement "x" = true ∧
      session.canvas.failCommands = false ∧
      (follow thereAndBack session).1 = List.replicate 4 (.ok true) ∧
      after.selected = some ⟨"x", "n", "task", ""⟩ ∧
      after.canvas.commands = [.update "x" ⟨none, some "y"⟩, .update "y" ⟨some "n", none⟩,
        .update "y" ⟨none, some "x"⟩] ∧
      after.canvas.outbox = List.replicate 3 .commandRun := by
  intro session after
  have selected : session.selected = some ⟨"x", "", "task", ""⟩ := by decide +kernel
  have known : session.canvas.hasElement "x" = true := by decide +kernel
  have sent : updatesOf ⟨"x", "", "task", ""⟩ thereAndBack = [.update "x" ⟨none, some "y"⟩,
      .update "y" ⟨some "n", none⟩, .update "y" ⟨none, some "x"⟩] := by decide
  obtain ⟨answers, changed, -, commands, outbox⟩ :=
    chain_follows_element selected known rfl thereAndBack
  rw [sent] at commands outbox
  exact ⟨selected, known, rfl, answers, changed, commands, outbox⟩

end Session

end LaneChart
