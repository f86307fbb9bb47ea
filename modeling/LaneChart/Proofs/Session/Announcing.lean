/-
**Which commands a canvas announces.** A canvas reports an event when a user edits the document and
when it carries out an update of an element. A shape that is put on the canvas is recorded among the
commands, but nothing is reported. So a session that has sent an update is modified as soon as it
takes note of the events, while one that has put a shape on the canvas is so only if something else
was reported as well.

* `CanvasUse`, `Canvas.use`: what can be done to a canvas.
* `Canvas.ownEvents`, `Canvas.announced`: what a canvas reports on its own, in a use and in a run.
* `Canvas.use_balance`, `Canvas.run_balance`: the commands and edits of a use and of a run are those
  that are announced and the shapes.
* `Session.commandRun_outbox`: a report stays until the events are taken note of.
* `Session.pump_update`, `Session.pump_createShape`: a session after a command and after it has
  taken note of the events.
* `Session.commands_announced_iff`: all of it.
* `Session.shape_goes_unnoted`: a shape that no session notices.
-/

import LaneChart.Proofs.Session.Listening

namespace LaneChart

/-- Whether a command put a shape on the canvas. -/
def CanvasCommand.isCreation : CanvasCommand → Bool
  | create _ _ => true
  | update _ _ => false

/-- **What can be done to a canvas.** -/
inductive CanvasUse where
  | importXml (xml : String)
  | edit (xml : String)
  | updateProperties (id : String) (patch : Patch)
  | createShape (kind : ElementKind)
  /-- the canvas is told to report an event -/
  | report (event : CanvasEvent)
  | refuse (marker : String)
  | failSaves
  | failCommands
deriving DecidableEq, Repr

/-- Whether a user edits the document. -/
def CanvasUse.isEdit : CanvasUse → Bool
  | edit _ => true
  | _ => false

namespace Canvas

/-! ### Uses of a canvas -/

/-- **The canvas after a use.** A call that fails leaves it as it was. -/
def use (canvas : Canvas) : CanvasUse → Canvas
  | .importXml xml => (canvas.importXml xml).toOption.getD canvas
  | .edit xml => canvas.edit xml
  | .updateProperties id patch => (canvas.updateProperties id patch).toOption.getD canvas
  | .createShape kind => ((canvas.createShape kind).toOption.map (·.2)).getD canvas
  | .report event => canvas.report event
  | .refuse marker => canvas.refuse marker
  | .failSaves => { canvas with failSaves := true }
  | .failCommands => { canvas with failCommands := true }

/-- **What a canvas reports on its own** when it is used: all that is new in its outbox, unless it
was told to report it. -/
def ownEvents (canvas : Canvas) : CanvasUse → List CanvasEvent
  | .report _ => []
  | use => (canvas.use use).outbox.drop canvas.outbox.length

/-- **What a canvas reports on its own in a run.** -/
def announced : Canvas → List CanvasUse → List CanvasEvent
  | _, [] => []
  | canvas, use :: rest => canvas.ownEvents use ++ (canvas.use use).announced rest

/-- **The balance of a use or a run:** the events that were announced and the shapes that were put
on the canvas are as many as the edits and the new commands. -/
structure Balance (before after : Canvas) (events : List CanvasEvent) (edits : Nat) : Prop where
  intro ::
  recorded : ∃ new, after.commands = before.commands ++ new ∧
    events.count .commandRun + new.countP CanvasCommand.isCreation = edits + new.length

theorem Balance.of_quiet {before after : Canvas} (commands : after.commands = before.commands) :
    Balance before after [] 0 :=
  ⟨[], by rw [commands, List.append_nil], rfl⟩

theorem Balance.trans {first second third : Canvas} {events later : List CanvasEvent}
    {edits more : Nat} (left : Balance first second events edits)
    (right : Balance second third later more) :
    Balance first third (events ++ later) (edits + more) := by
  obtain ⟨new, commands, balance⟩ := left
  obtain ⟨newer, commands', balance'⟩ := right
  refine ⟨new ++ newer, by rw [commands', commands, List.append_assoc], ?_⟩
  rw [List.count_append, List.countP_append, List.length_append]
  omega

/-- A use after which the outbox is the same reports nothing. -/
theorem ownEvents_of_same {canvas : Canvas} {use : CanvasUse}
    (same : (canvas.use use).outbox = canvas.outbox) : canvas.ownEvents use = [] := by
  have nothing : (canvas.use use).outbox.drop canvas.outbox.length = [] := by
    rw [same, List.drop_length]
  cases use <;> first | exact nothing | rfl

/-- A use that the canvas was not told to report, with one more event in the outbox. -/
theorem ownEvents_of_added {canvas : Canvas} {use : CanvasUse} {event : CanvasEvent}
    (added : (canvas.use use).outbox = canvas.outbox ++ [event])
    (own : ∀ other, use ≠ .report other) : canvas.ownEvents use = [event] := by
  have new : (canvas.use use).outbox.drop canvas.outbox.length = [event] := by
    rw [added, List.drop_left]
  cases use with
  | report other => exact absurd rfl (own other)
  | _ => exact new

/-- **The balance of a use.** -/
theorem use_balance (canvas : Canvas) (use : CanvasUse) :
    Balance canvas (canvas.use use) (canvas.ownEvents use) (if use.isEdit then 1 else 0) := by
  have quiet : ∀ {use : CanvasUse}, (canvas.use use).outbox = canvas.outbox →
      (canvas.use use).commands = canvas.commands →
      Balance canvas (canvas.use use) (canvas.ownEvents use) 0 := by
    intro use outbox commands
    rw [ownEvents_of_same outbox]
    exact .of_quiet commands
  cases use with
  | importXml xml =>
    refine quiet ?_ ?_ <;>
    · simp only [Canvas.use, importXml]
      cases canvas.inspect xml <;> rfl
  | edit xml =>
    have own : canvas.ownEvents (.edit xml) = [.commandRun] :=
      ownEvents_of_added rfl fun other same => by cases same
    refine ⟨[], (List.append_nil _).symm, ?_⟩
    rw [own]
    rfl
  | updateProperties id patch =>
    cases done : canvas.updateProperties id patch with
    | error fault =>
      have same : canvas.use (.updateProperties id patch) = canvas := by
        rw [Canvas.use, done]
        rfl
      exact quiet (by rw [same]) (by rw [same])
    | ok changed =>
      have used : canvas.use (.updateProperties id patch) = changed := by
        rw [Canvas.use, done]
        rfl
      unfold updateProperties at done
      split at done
      · cases done
      split at done
      · cases done
      cases done
      have own : canvas.ownEvents (.updateProperties id patch) = [.commandRun] :=
        ownEvents_of_added (by rw [used]; rfl) fun other same => by cases same
      refine ⟨[.update id patch], congrArg Canvas.commands used, ?_⟩
      rw [own]
      rfl
  | createShape kind =>
    by_cases failing : canvas.failCommands = true
    · have same : canvas.use (.createShape kind) = canvas := by
        rw [Canvas.use, createShape, if_pos failing]
        rfl
      exact quiet (by rw [same]) (by rw [same])
    · -- The command is recorded, and the outbox stays as it is.
      have shape : canvas.use (.createShape kind) = { canvas with
          shapes := canvas.shapes + 1
          registry := canvas.registry ++ [s!"Shape_{canvas.shapes + 1}"]
          commands := canvas.commands ++ [.create kind s!"Shape_{canvas.shapes + 1}"] } := by
        rw [Canvas.use, createShape, if_neg failing]
        rfl
      refine ⟨[.create kind s!"Shape_{canvas.shapes + 1}"], by rw [shape], ?_⟩
      rw [ownEvents_of_same (by rw [shape])]
      rfl
  | report event => exact .of_quiet rfl
  | refuse marker => exact quiet rfl rfl
  | failSaves => exact quiet rfl rfl
  | failCommands => exact quiet rfl rfl

/-- **The balance of a run.** -/
theorem run_balance (canvas : Canvas) (uses : List CanvasUse) :
    Balance canvas (uses.foldl use canvas) (canvas.announced uses)
      (uses.countP CanvasUse.isEdit) := by
  induction uses generalizing canvas with
  | nil => exact .of_quiet rfl
  | cons use uses ih =>
    rw [List.foldl_cons, announced, List.countP_cons, Nat.add_comm]
    exact (use_balance canvas use).trans (ih _)

end Canvas

namespace Session

variable {σ : Type} [Storage σ]

/-! ### A report stays until it is taken note of -/

/-- An update that was sent is reported. -/
theorem commandRun_update {session : Session σ} {patch : Patch} {selection : Selection}
    (selected : session.selected = some selection)
    (sent : (reduced selection.id patch).isEmpty = false)
    (done : (updateSelected patch session).1 = .ok true) :
    .commandRun ∈ (session.act (.updateSelected patch)).canvas.outbox := by
  have carriedOut : ∃ changed,
      session.canvas.updateProperties selection.id (reduced selection.id patch) = .ok changed := by
    cases updated : session.canvas.updateProperties selection.id (reduced selection.id patch) with
    | ok changed => exact ⟨changed, rfl⟩
    | error fault =>
      simp only [updateSelected, run_bind, get_run, selected, send_run, sent, updated] at done
      cases done
  obtain ⟨changed, updated⟩ := carriedOut
  have reports : session.reported (.updateSelected patch) = [.commandRun] := by
    simp only [reported, selected, sent, updated, Bool.false_eq_true, if_false]
  rw [outbox_updateSelected, reports]
  exact List.mem_append_right _ List.mem_cons_self

/-- **A report stays** while nobody takes note of the events. -/
theorem commandRun_outbox {session : Session σ} (reported : .commandRun ∈ session.canvas.outbox)
    {between : List Action} (unnoted : .pump ∉ between) :
    .commandRun ∈ (between.foldl act session).canvas.outbox := by
  induction between generalizing session with
  | nil => exact reported
  | cons action between ih =>
    obtain ⟨other, later⟩ := List.ne_and_not_mem_of_not_mem_cons unnoted
    refine ih ?_ later
    rw [outbox_act, if_neg other.symm]
    exact List.mem_append_left _ reported

/-- What an action that shows no other document leaves shown. -/
theorem showsDocument_act {session : Session σ} (shown : session.phase.showsDocument = true)
    {action : Action} (stays : action.isOpening = false) :
    (session.act action).phase.showsDocument = true := by
  rcases act_phase session action with ⟨opening, rfl, _⟩ | (saved | exported) | idle
  · cases stays
  · rw [saved]
    rfl
  · rw [exported]
    rfl
  · rw [idle_phase idle]
    split
    · rfl
    · exact shown

theorem showsDocument_run {session : Session σ} (shown : session.phase.showsDocument = true)
    {between : List Action} (stays : ∀ action ∈ between, action.isOpening = false) :
    (between.foldl act session).phase.showsDocument = true := by
  induction between generalizing session with
  | nil => exact shown
  | cons action between ih =>
    exact ih (showsDocument_act shown (stays action List.mem_cons_self)) fun other member =>
      stays other (List.mem_cons_of_mem _ member)

/-- What taking note of the events makes of the phase. -/
theorem phase_pump (session : Session σ) :
    (session.act .pump).phase =
      if session.phase.showsDocument = true ∧ .commandRun ∈ session.canvas.waiting then .modified
      else session.phase :=
  phase_afterEvents session.canvas.waiting session

/-! ### A session after a command -/

/-- **A session that has sent an update is modified** once it has taken note of the events, whatever
it did in between, if it still shows the document and no event was lost. -/
theorem pump_update {session : Session σ} (shown : session.phase.showsDocument = true)
    {patch : Patch} {selection : Selection} (selected : session.selected = some selection)
    (sent : (reduced selection.id patch).isEmpty = false)
    (done : (updateSelected patch session).1 = .ok true) {between : List Action}
    (unnoted : .pump ∉ between) (stays : ∀ action ∈ between, action.isOpening = false)
    (few : (between.foldl act (session.act (.updateSelected patch))).canvas.outbox.length ≤
      Canvas.capacity) :
    ((between.foldl act (session.act (.updateSelected patch))).act .pump).phase = .modified := by
  have reported := commandRun_outbox (commandRun_update selected sent done) unnoted
  have after : (session.act (.updateSelected patch)).phase.showsDocument = true :=
    showsDocument_act shown rfl
  have still := showsDocument_run after stays
  rw [phase_pump, waiting_of_few few]
  exact if_pos ⟨still, reported⟩

/-- **A session that has put a shape on the canvas is modified** once it has taken note of the
events exactly when a command was reported before. -/
theorem pump_createShape {session : Session σ} (shown : session.phase.showsDocument = true)
    (clean : session.phase ≠ .modified) (kind : ElementKind) :
    ((session.act (.createShape kind)).act .pump).phase = .modified ↔
      .commandRun ∈ session.canvas.waiting := by
  have same : (session.act (.createShape kind)).canvas.waiting = session.canvas.waiting := by
    have outbox := outbox_act session (.createShape kind)
    rw [if_neg nofun, show session.reported (.createShape kind) = [] from rfl,
      List.append_nil] at outbox
    rw [Canvas.waiting, outbox, Canvas.waiting]
  have phase : (session.act (.createShape kind)).phase = session.phase :=
    (aside_createShape kind session).phase
  rw [phase_pump, same, phase]
  by_cases reported : .commandRun ∈ session.canvas.waiting
  · exact iff_of_true (if_pos ⟨shown, reported⟩) reported
  · rw [if_neg fun both => reported both.2]
    exact iff_of_false clean reported

/-- **Every command is announced unless it puts a shape on the canvas.** In every run of a canvas,
the reports of commands that it makes on its own are as many as the edits and the commands that it
carried out, not counting the shapes it was given; so they are as many as all of these exactly when
there was no shape.

A session that is ready, saved or exported, and has sent an update that was carried out, is modified
once it has taken note of the events, unless some were lost. One that has put a shape on the canvas
is so exactly when a command was reported before and still waits. -/
theorem commands_announced_iff :
    (∀ uses : List CanvasUse,
      let canvas := uses.foldl Canvas.use {}
      let reports := (({} : Canvas).announced uses).count .commandRun
      let edits := uses.countP CanvasUse.isEdit
      reports + canvas.commands.countP CanvasCommand.isCreation = edits + canvas.commands.length ∧
        (reports = edits + canvas.commands.length ↔
          ∀ command ∈ canvas.commands, command.isCreation = false)) ∧
    ∀ session : Session σ, session.phase ∈ [.ready, .saved, .exported] →
      (∀ patch selection, session.selected = some selection →
        (reduced selection.id patch).isEmpty = false →
        (updateSelected patch session).1 = .ok true →
        ∀ between : List Action,
          (∀ action ∈ between, action ≠ .pump ∧ action.isOpening = false) →
          let later := between.foldl act (session.act (.updateSelected patch))
          later.canvas.outbox.length ≤ Canvas.capacity → (later.act .pump).phase = .modified) ∧
      ∀ kind id, (createShape kind session).1 = .ok (some id) →
        (((session.act (.createShape kind)).act .pump).phase = .modified ↔
          .commandRun ∈ session.canvas.waiting) := by
  refine ⟨fun uses => ?_, fun session phase => ?_⟩
  · intro canvas reports edits
    obtain ⟨new, commands, balance⟩ := Canvas.run_balance {} uses
    have all : canvas.commands = new := commands
    rw [all]
    refine ⟨balance, ?_⟩
    have shapes : new.countP CanvasCommand.isCreation = 0 ↔
        ∀ command ∈ new, command.isCreation = false := by
      simp only [List.countP_eq_zero, Bool.not_eq_true]
    rw [← shapes]
    omega
  · have shown : session.phase.showsDocument = true ∧ session.phase ≠ .modified := by
      revert phase
      cases session.phase <;> decide
    refine ⟨fun patch selection selected sent done between calm few => ?_, fun kind id _ => ?_⟩
    · exact pump_update shown.1 selected sent done (fun pumped => (calm _ pumped).1 rfl)
        (fun action member => (calm action member).2) few
    · exact pump_createShape shown.1 shown.2 kind

/-- A run that shows a document with an element, and selects it. -/
def selectedRun : List Action :=
  [.opening (.importDiagram "<a><process><task id=\"T\"/></process></a>"),
    .report (.selectionChanged (some ⟨"T", "", "task", ""⟩)), .pump]

/-- After such a run, an update is noticed, also when the document is saved before. A shape is so
when there was an update before it. -/
theorem commands_announced_iff_selected :
    let session := selectedRun.foldl act (start {} blankDocument ({} : Shelf))
    let patch : Patch := { name := some "Plan" }
    let saved := (session.act (.updateSelected patch)).act (.save "now")
    session.phase = .ready ∧ (updateSelected patch session).1 = .ok true ∧
      saved.phase = .saved ∧ (saved.act .pump).phase = .modified ∧
      (createShape .task saved).1 = .ok (some "Shape_1") ∧
      ((saved.act (.createShape .task)).act .pump).phase = .modified := by
  intro session patch saved
  have ready : session.phase = .ready := by decide +kernel
  have isSaved : saved.phase = .saved := by decide +kernel
  have selected : session.selected = some ⟨"T", "", "task", ""⟩ := by decide +kernel
  have done : (updateSelected patch session).1 = .ok true := by decide +kernel
  have created : (createShape .task saved).1 = .ok (some "Shape_1") := by decide +kernel
  obtain ⟨updates, -⟩ := (commands_announced_iff (σ := Shelf)).2 session (by rw [ready]; decide)
  obtain ⟨-, shapes⟩ := (commands_announced_iff (σ := Shelf)).2 saved (by rw [isSaved]; decide)
  have updated := updates patch _ selected (by decide) done [.save "now"] (by decide)
    (by decide +kernel)
  exact ⟨ready, done, isSaved, updated, created,
    (shapes .task _ created).mpr (by decide +kernel)⟩

/-- A run that shows a document and puts a shape on the canvas. -/
def shapedRun : List Action := [.opening (.importDiagram "<a/>"), .createShape .task]

/-- **A shape that no session notices:** the canvas has carried out a command, and has reported
nothing. After the session has taken note of all events it is still ready. -/
theorem shape_goes_unnoted :
    let first := start {} blankDocument ({} : Shelf)
    let shown := ([.opening (.importDiagram "<a/>")] : List Action).foldl act first
    let uses := [.importXml "<a/>", .createShape .task]
    shown.phase = .ready ∧ (createShape .task shown).1 = .ok (some "Shape_1") ∧
      ((shapedRun.foldl act first).act .pump).phase = .ready ∧
      (uses.foldl Canvas.use {}).commands = [.create .task "Shape_1"] ∧
      ({} : Canvas).announced uses = [] := by
  decide +kernel

end Session

end LaneChart
