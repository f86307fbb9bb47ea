/-
**What waits outlives the document it is about.** The events of a canvas wait until the session
takes note of them. An operation that shows a document takes none of them away, so a report about
the document before is delivered while the new one is shown.

* `lastSelection?`: what a row of events says is selected.
* `Session.phase_afterEvents`, `Session.selected_afterEvents`: what a row of events does.
* `Session.pump_opening`: a session after a document was shown and the events were taken note of.
* `Session.opening_starts_clean_iff`: the new document starts clean exactly when no report of a
  command waits and no selection does.
* `Session.opening_starts_clean_of_pumped`: it does when the events were taken note of right before.
-/

import LaneChart.Proofs.Session.Saving

namespace LaneChart

/-! ### Rows of events -/

/-- What an event says is selected, if it says anything. -/
def CanvasEvent.selection? : CanvasEvent → Option (Option Selection)
  | selectionChanged selection => some selection
  | commandRun => none

/-- **What a row of events says is selected.** The last event that says anything decides. -/
def lastSelection? (events : List CanvasEvent) : Option (Option Selection) :=
  (events.filterMap CanvasEvent.selection?).getLast?

namespace Session

variable {σ : Type}

/-- A report of a command changes the phase of a session that shows a document, and nothing else
changes any phase. -/
theorem phase_afterEvents (events : List CanvasEvent) (session : Session σ) :
    (events.foldl afterEvent session).phase =
      if session.phase.showsDocument = true ∧ .commandRun ∈ events then .modified
      else session.phase := by
  induction events generalizing session with
  | nil => exact (if_neg fun reported => List.not_mem_nil reported.2).symm
  | cons event events ih =>
    rw [List.foldl_cons, ih]
    cases event with
    | selectionChanged selection =>
      have same : (session.afterEvent (.selectionChanged selection)).phase = session.phase := rfl
      have later : .commandRun ∈ .selectionChanged selection :: events ↔ .commandRun ∈ events :=
        ⟨fun member => (List.mem_cons.mp member).resolve_left nofun, List.mem_cons_of_mem _⟩
      simp only [same, later]
    | commandRun =>
      cases shown : session.phase.showsDocument with
      | true =>
        have moved : session.afterEvent .commandRun = { session with phase := .modified } :=
          if_pos shown
        rw [moved, ite_self, if_pos ⟨rfl, List.mem_cons_self⟩]
      | false =>
        have stays : session.afterEvent .commandRun = session := if_neg (by rw [shown]; decide)
        simp only [stays, shown, Bool.false_eq_true, false_and, if_false]

/-- The last event that says what is selected decides, if there is one. -/
theorem selected_afterEvents (events : List CanvasEvent) (session : Session σ) :
    (events.foldl afterEvent session).selected =
      (lastSelection? events).getD session.selected := by
  induction events generalizing session with
  | nil => rfl
  | cons event events ih =>
    rw [List.foldl_cons, ih, lastSelection?, lastSelection?]
    cases event with
    | selectionChanged selection =>
      have said : (CanvasEvent.selectionChanged selection :: events).filterMap
          CanvasEvent.selection? = selection :: events.filterMap CanvasEvent.selection? := rfl
      rw [said, List.getLast?_cons, Option.getD_some]
      rfl
    | commandRun =>
      have silent : (CanvasEvent.commandRun :: events).filterMap CanvasEvent.selection? =
          events.filterMap CanvasEvent.selection? := rfl
      have same : (session.afterEvent .commandRun).selected = session.selected := by
        unfold afterEvent
        split
        · rename_i event other
          cases other
        · split <;> rfl
      rw [silent, same]

/-! ### A document that is newly shown -/

variable [Storage σ]

/-- An operation that shows a document takes no event away, and reports none. -/
theorem waiting_opening (opening : Opening) (session : Session σ) :
    (session.act (.opening opening)).canvas.waiting = session.canvas.waiting := by
  rcases opening_lands opening session with ⟨_, shows⟩ | ⟨_, _, _, _, stuck⟩
  · obtain ⟨ids, _, canvas⟩ := shows.canvas
    rw [act, canvas]
    rfl
  · rw [act, stuck.canvas]

/-- **A session after a document was shown and events were taken note of.** What waited before
decides, although it is about another document. -/
theorem pump_opening {opening : Opening} {session : Session σ}
    (shown : (opening.run session).1 = .ok .ready) :
    ((session.act (.opening opening)).act .pump).phase =
        (if .commandRun ∈ session.canvas.waiting then .modified else .ready) ∧
      ((session.act (.opening opening)).act .pump).selected =
        (lastSelection? session.canvas.waiting).join := by
  have shows : (session.act (.opening opening)).phase = .ready ∧
      (session.act (.opening opening)).selected = none := by
    rcases opening_lands opening session with ⟨_, shows⟩ | ⟨_, failed, _⟩
    · exact ⟨shows.phase, shows.selected⟩
    · rw [failed] at shown
      cases shown
  have waiting := waiting_opening opening session
  constructor
  · have phase := phase_afterEvents session.canvas.waiting (session.act (.opening opening))
    rw [shows.1] at phase
    calc ((session.act (.opening opening)).act .pump).phase
        = (((session.act (.opening opening)).canvas.waiting).foldl afterEvent
            (session.act (.opening opening))).phase := rfl
      _ = if Phase.ready.showsDocument = true ∧ .commandRun ∈ session.canvas.waiting then
            .modified else .ready := by rw [waiting, phase]
      _ = if .commandRun ∈ session.canvas.waiting then .modified else .ready := by
            simp only [Phase.showsDocument, true_and]
  · have selected := selected_afterEvents session.canvas.waiting (session.act (.opening opening))
    rw [shows.2] at selected
    calc ((session.act (.opening opening)).act .pump).selected
        = (((session.act (.opening opening)).canvas.waiting).foldl afterEvent
            (session.act (.opening opening))).selected := rfl
      _ = (lastSelection? session.canvas.waiting).getD none := by rw [waiting, selected]
      _ = (lastSelection? session.canvas.waiting).join := by
            cases lastSelection? session.canvas.waiting <;> rfl

/-- **A document that is newly shown starts clean,** ready and with nothing selected once the events
are taken note of, exactly when nothing is left over from the time before: no report of a command
waits, and the last report of a selection that waits, if there is one, selects nothing. -/
theorem opening_starts_clean_iff {opening : Opening} {session : Session σ}
    (shown : (opening.run session).1 = .ok .ready) :
    let later := (session.act (.opening opening)).act .pump
    (later.phase = .ready ∧ later.selected = none) ↔
      .commandRun ∉ session.canvas.waiting ∧
        (lastSelection? session.canvas.waiting).join = none := by
  intro later
  obtain ⟨phase, selected⟩ := pump_opening shown
  have clean : later.phase = .ready ↔ .commandRun ∉ session.canvas.waiting := by
    rw [phase]
    by_cases reported : .commandRun ∈ session.canvas.waiting
    · rw [if_pos reported]
      exact ⟨Phase.noConfusion, fun none => absurd reported none⟩
    · rw [if_neg reported]
      exact ⟨fun _ => reported, fun _ => rfl⟩
  rw [clean, selected]

/-- A run after which a selection was reported and taken back, and no command was run. -/
def deselectedRun : List Action :=
  [.opening (.importDiagram "<a/>"), .report (.selectionChanged (some ⟨"T", "", "task", ""⟩)),
    .report (.selectionChanged none)]

/-- After such a run, the next document starts clean. -/
theorem opening_starts_clean_deselected :
    let session := deselectedRun.foldl act (start {} blankDocument ({} : Shelf))
    let opening := Opening.importDiagram "<c/>"
    let later := (session.act (.opening opening)).act .pump
    (opening.run session).1 = .ok .ready ∧ later.phase = .ready ∧ later.selected = none := by
  intro session opening later
  have shown : (opening.run session).1 = .ok .ready := rfl
  have nothing : .commandRun ∉ session.canvas.waiting ∧
      (lastSelection? session.canvas.waiting).join = none := by decide +kernel
  exact ⟨shown, (opening_starts_clean_iff shown).mpr nothing⟩

/-- A run after which an edit and a selection wait to be taken note of. -/
def unnotedRun : List Action :=
  [.opening (.importDiagram "<a/>"), .edit "<b/>",
    .report (.selectionChanged (some ⟨"T", "", "task", ""⟩))]

/-- After such a run, the next document is modified as soon as it is there, and an element of the
document before is selected. -/
theorem unnotedRun_marks_next :
    let session := unnotedRun.foldl act (start {} blankDocument ({} : Shelf))
    let opening := Opening.importDiagram "<c/>"
    let later := (session.act (.opening opening)).act .pump
    (opening.run session).1 = .ok .ready ∧ later.canvas.current = some "<c/>" ∧
      later.phase = .modified ∧ later.selected = some ⟨"T", "", "task", ""⟩ :=
  ⟨rfl, by decide +kernel⟩

/-- **A document that is shown right after the events were taken note of starts clean.** -/
theorem opening_starts_clean_of_pumped {opening : Opening} {session : Session σ}
    (shown : (opening.run (session.act .pump)).1 = .ok .ready) :
    (((session.act .pump).act (.opening opening)).act .pump).phase = .ready ∧
      (((session.act .pump).act (.opening opening)).act .pump).selected = none := by
  have nothing : (session.act .pump).canvas.waiting = [] := rfl
  refine (opening_starts_clean_iff shown).mpr ?_
  rw [nothing]
  exact ⟨List.not_mem_nil, rfl⟩

end Session

end LaneChart
