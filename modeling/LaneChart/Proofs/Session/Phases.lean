/-
**How far a session is follows from what happened.** A session that is ready, modified, saved or
exported has a document on the canvas. It is loading only while nothing came after an operation that
could not even show the template, and uninitialized only before anything succeeded. It becomes
modified only when it takes note of a command while it shows a document.

* `Session.steps`: the steps of a run, each with the session before it.
* `Session.Delivers`: a save that reached the storage, or an export that succeeded.
* `Session.noted`: the events that a step takes note of.
* `Session.act_phase`: everything a step can do to the phase.
* `Session.backed_run`, `Session.loading_iff`, `Session.uninitialized_iff`,
  `Session.becomes_modified_iff`: the four phases of a run; `Session.phase_of_run` puts them
  together.

The inductions take the last step of a run off: what a phase says about the past is about the steps
since some moment, and these grow at their end.
-/

import LaneChart.Proofs.Session.Events
import Mathlib

namespace LaneChart

/-- Whether an action is to show a document. -/
def Action.isOpening : Action → Bool
  | opening _ => true
  | _ => false

namespace Session

variable {σ : Type} [Storage σ]

/-! ### The steps of a run -/

/-- **The steps of a run:** every action, with the session right before it. -/
def steps : Session σ → List Action → List (Session σ × Action)
  | _, [] => []
  | session, action :: rest => (session, action) :: steps (session.act action) rest

theorem steps_concat (session : Session σ) (actions : List Action) (action : Action) :
    session.steps (actions ++ [action]) =
      session.steps actions ++ [(actions.foldl act session, action)] := by
  induction actions generalizing session with
  | nil => rfl
  | cons first actions ih =>
    rw [List.cons_append, steps, ih, steps, List.cons_append, List.foldl_cons]

/-- **A save that reaches the storage, or an export that succeeds.** -/
def Delivers (session : Session σ) : Action → Prop
  | .save stamp => (save stamp session).2.phase = .saved
  | .exportXml => (exportXml session).1.isOk = true
  | _ => False

/-- A step that neither is to show a document nor delivers one. -/
def Idle (step : Session σ × Action) : Prop :=
  step.2.isOpening = false ∧ ¬ step.1.Delivers step.2

/-- **The events that a step takes note of,** in order. -/
def noted (session : Session σ) : Action → List CanvasEvent
  | .pump => session.canvas.waiting
  | .handle event => [event]
  | _ => []

/-! ### One step -/

/-- How an operation that shows a document ends. -/
theorem opening_phase (opening : Opening) (session : Session σ) :
    ((opening.run session).1 = .ok .ready ∧ (opening.run session).2.phase = .ready ∧
        (opening.run session).2.canvas.current ≠ none) ∨
      ∃ fault, (opening.run session).1 = .error (.templateRejected fault) ∧
        (opening.run session).2.phase = .loading ∧
        (opening.run session).2.canvas = session.canvas := by
  rcases opening_lands opening session with ⟨ready, shows⟩ | ⟨fault, failed, _, _, stuck⟩
  · refine .inl ⟨ready, shows.phase, ?_⟩
    rw [shows.current]
    exact Option.some_ne_none _
  · exact .inr ⟨fault, failed, stuck.phase, stuck.canvas⟩

/-- A save leaves the canvas alone; it ends saved with a document on the canvas, or the phase
stays. -/
theorem save_phase (stamp : String) (session : Session σ) :
    (save stamp session).2.canvas = session.canvas ∧
      ((save stamp session).2.phase = session.phase ∨
        (save stamp session).2.phase = .saved ∧ session.canvas.current ≠ none) := by
  simp only [save, run_bind, get_run]
  cases done : session.canvas.saveXml with
  | error fault => exact ⟨rfl, .inl rfl⟩
  | ok xml =>
    have kept : (keepSaved xml stamp session).2.canvas = session.canvas ∧
        (keepSaved xml stamp session).2.phase = session.phase := by
      simp only [keepSaved, run_bind]
      cases (callStorage (Storage.set .diagram xml) session).1 <;> exact ⟨rfl, rfl⟩
    simp only [run_bind]
    cases (keepSaved xml stamp session).1 with
    | error fault => exact ⟨kept.1, .inl kept.2⟩
    | ok =>
      refine ⟨kept.1, .inr ⟨rfl, ?_⟩⟩
      rw [current_of_saveXml done]
      exact Option.some_ne_none _

omit [Storage σ] in
/-- An export leaves the canvas alone; it succeeds and ends exported with a document on the canvas,
or it fails and the phase stays. -/
theorem exportXml_phase (session : Session σ) :
    (exportXml session).2.canvas = session.canvas ∧
      ((exportXml session).1.isOk = false ∧ (exportXml session).2.phase = session.phase ∨
        (exportXml session).1.isOk = true ∧ (exportXml session).2.phase = .exported ∧
          session.canvas.current ≠ none) := by
  simp only [exportXml, run_bind, get_run]
  cases done : session.canvas.saveXml with
  | error fault => exact ⟨rfl, .inl ⟨rfl, rfl⟩⟩
  | ok xml =>
    refine ⟨rfl, .inr ⟨rfl, rfl, ?_⟩⟩
    rw [current_of_saveXml done]
    exact Option.some_ne_none _

/-- What was delivered is saved or exported. -/
theorem delivers_phase {session : Session σ} {action : Action}
    (delivers : session.Delivers action) :
    (session.act action).phase = .saved ∨ (session.act action).phase = .exported := by
  cases action with
  | save stamp => exact .inl delivers
  | exportXml =>
    rcases (exportXml_phase session).2 with ⟨failed, _⟩ | ⟨_, exported, _⟩
    · have done : (exportXml session).1.isOk = true := delivers
      rw [failed] at done
      cases done
    · exact .inr exported
  | _ => exact delivers.elim

/-- **An idle step changes the phase only by taking note of a command,** and only when a document is
shown. -/
theorem idle_phase {session : Session σ} {action : Action} (idle : Idle (session, action)) :
    (session.act action).phase =
      if session.phase.showsDocument = true ∧ .commandRun ∈ session.noted action then .modified
      else session.phase := by
  have silent : ∀ {after : Session σ}, after.phase = session.phase → after.phase =
      if session.phase.showsDocument = true ∧ .commandRun ∈ ([] : List CanvasEvent) then .modified
      else session.phase := by
    intro after same
    rw [same, if_neg fun reported => List.not_mem_nil reported.2]
  cases action with
  | opening opening => cases idle.1
  | save stamp =>
    exact silent ((save_phase stamp session).2.resolve_right fun saved => idle.2 saved.1)
  | exportXml =>
    rcases (exportXml_phase session).2 with ⟨_, same⟩ | ⟨done, _⟩
    · exact silent same
    · exact absurd done idle.2
  | jsonView => exact silent (aside_jsonView session).phase
  | updateSelected patch => exact silent (aside_updateSelected patch session).phase
  | createShape kind => exact silent (aside_createShape kind session).phase
  | pump => exact phase_afterEvents session.canvas.waiting session
  | handle event => exact phase_afterEvents [event] session
  | edit xml => exact silent rfl
  | report event => exact silent rfl
  | refuse marker => exact silent rfl
  | failSaves => exact silent rfl
  | failCommands => exact silent rfl

/-- **Everything a step can do to the phase:** it was to show a document, it delivered one, or it
was idle. -/
theorem act_phase (session : Session σ) (action : Action) :
    (∃ opening, action = .opening opening ∧
        ((session.act action).phase = .ready ∨
          ∃ fault, (opening.run session).1 = .error (.templateRejected fault) ∧
            (session.act action).phase = .loading)) ∨
      ((session.act action).phase = .saved ∨ (session.act action).phase = .exported) ∨
      Idle (session, action) := by
  cases opens : action.isOpening with
  | true =>
    cases action with
    | opening opening =>
      refine .inl ⟨opening, rfl, ?_⟩
      rcases opening_phase opening session with ⟨_, ready, _⟩ | ⟨fault, failed, loading, _⟩
      · exact .inl ready
      · exact .inr ⟨fault, failed, loading⟩
    | _ => cases opens
  | false =>
    by_cases delivers : session.Delivers action
    · exact .inr (.inl (delivers_phase delivers))
    · exact .inr (.inr ⟨opens, delivers⟩)

/-! ### A document is on the canvas -/

/-- A session that shows a document has one on the canvas. -/
def Backed (session : Session σ) : Prop :=
  session.phase.showsDocument = true → session.canvas.current ≠ none

omit [Storage σ] in
theorem Backed.of_aside {before after : Session σ} (backed : Backed before)
    (aside : Aside before after) : Backed after := by
  rw [Backed, aside.phase, aside.current]
  exact backed

omit [Storage σ] in
/-- Events do not change whether a document is shown. -/
theorem showsDocument_afterEvents (events : List CanvasEvent) (session : Session σ) :
    (events.foldl afterEvent session).phase.showsDocument = session.phase.showsDocument := by
  rw [phase_afterEvents]
  split
  · rename_i reported
    exact reported.1.symm
  · rfl

omit [Storage σ] in
theorem Backed.afterEvents {session : Session σ} (backed : Backed session)
    (events : List CanvasEvent) : Backed (events.foldl afterEvent session) := by
  rw [Backed, showsDocument_afterEvents, (afterEvents_spec events session).2.1]
  exact backed

/-- **No step takes the document away** while it is shown. -/
theorem backed_act {session : Session σ} (backed : Backed session) (action : Action) :
    Backed (session.act action) := by
  cases action with
  | opening opening =>
    intro shows
    rcases opening_phase opening session with ⟨_, _, shown⟩ | ⟨_, _, loading, _⟩
    · exact shown
    · rw [act, loading] at shows
      cases shows
  | save stamp =>
    obtain ⟨canvas, same | ⟨_, shown⟩⟩ := save_phase stamp session
    · rw [Backed, act, canvas, same]
      exact backed
    · rw [Backed, act, canvas]
      exact fun _ => shown
  | exportXml =>
    obtain ⟨canvas, ⟨_, same⟩ | ⟨_, _, shown⟩⟩ := exportXml_phase session
    · rw [Backed, act, canvas, same]
      exact backed
    · rw [Backed, act, canvas]
      exact fun _ => shown
  | jsonView => exact backed.of_aside (aside_jsonView session)
  | updateSelected patch => exact backed.of_aside (aside_updateSelected patch session)
  | createShape kind => exact backed.of_aside (aside_createShape kind session)
  | pump => exact backed.afterEvents session.canvas.waiting
  | handle event => exact backed.afterEvents [event]
  | edit xml => exact fun _ => Option.some_ne_none xml
  | report event => exact backed
  | refuse marker => exact backed
  | failSaves => exact backed
  | failCommands => exact backed

theorem backed_run {session : Session σ} (backed : Backed session) (actions : List Action) :
    Backed (actions.foldl act session) := by
  induction actions generalizing session with
  | nil => exact backed
  | cons action actions ih => exact ih (backed_act backed action)

/-! ### No document is shown -/

/-- Idle steps leave a session as it is that shows no document. -/
theorem idle_run {session : Session σ} (hidden : session.phase.showsDocument = false)
    {actions : List Action} (idle : ∀ step ∈ session.steps actions, Idle step) :
    (actions.foldl act session).phase = session.phase := by
  induction actions generalizing session with
  | nil => rfl
  | cons action actions ih =>
    have same : (session.act action).phase = session.phase := by
      rw [idle_phase (idle _ List.mem_cons_self), hidden]
      exact if_neg fun reported => Bool.noConfusion reported.1
    have still : (session.act action).phase.showsDocument = false := by rw [same, hidden]
    exact (ih still fun step member => idle step (List.mem_cons_of_mem _ member)).trans same

/-- Idle steps with one more. -/
theorem idle_concat {session : Session σ} {actions : List Action} {action : Action}
    (idle : ∀ step ∈ session.steps actions, Idle step)
    (last : Idle (actions.foldl act session, action)) :
    ∀ step ∈ session.steps (actions ++ [action]), Idle step := by
  intro step member
  rw [steps_concat] at member
  rcases List.mem_append.mp member with before | here
  · exact idle step before
  · rw [List.mem_singleton.mp here]
    exact last

/-- A step after which no document is shown was to show one and failed, or it was idle. -/
theorem act_hidden {session : Session σ} {action : Action}
    (hidden : (session.act action).phase.showsDocument = false) :
    (∃ opening fault, action = .opening opening ∧
        (opening.run session).1 = .error (.templateRejected fault) ∧
        (session.act action).phase = .loading) ∨
      Idle (session, action) ∧ (session.act action).phase = session.phase := by
  rcases act_phase session action with ⟨opening, same, ready | ⟨fault, failed, loading⟩⟩ |
    (saved | exported) | idle
  · rw [ready] at hidden
    cases hidden
  · exact .inl ⟨opening, fault, same, failed, loading⟩
  · rw [saved] at hidden
    cases hidden
  · rw [exported] at hidden
    cases hidden
  · refine .inr ⟨idle, ?_⟩
    rw [idle_phase idle] at hidden ⊢
    split
    · rename_i reported
      rw [if_pos reported] at hidden
      cases hidden
    · rfl

/-- **A session is loading** exactly when the last operation that was to show a document could not
even show the template, and all steps since were idle. -/
theorem loading_iff {session : Session σ} (new : session.phase = .uninitialized)
    (actions : List Action) :
    (actions.foldl act session).phase = .loading ↔
      ∃ earlier opening later fault, actions = earlier ++ .opening opening :: later ∧
        (opening.run (earlier.foldl act session)).1 = .error (.templateRejected fault) ∧
        ∀ step ∈ ((earlier.foldl act session).act (.opening opening)).steps later, Idle step := by
  constructor
  · intro loading
    induction actions using List.reverseRecOn with
    | nil =>
      rw [List.foldl_nil, new] at loading
      cases loading
    | append_singleton actions action ih =>
      rw [List.foldl_append, List.foldl_cons, List.foldl_nil] at loading
      -- The last step has just failed to show the template, or it left the phase as it was.
      rcases act_hidden (by rw [loading]; rfl) with ⟨opening, fault, rfl, failed, _⟩ | ⟨idle, same⟩
      · exact ⟨actions, opening, [], fault, rfl, failed,
          fun _ member => absurd member List.not_mem_nil⟩
      · obtain ⟨earlier, opening, later, fault, rfl, failed, idleBefore⟩ := ih (same ▸ loading)
        rw [List.foldl_append, List.foldl_cons] at idle
        exact ⟨earlier, opening, later ++ [action], fault, by simp, failed,
          idle_concat idleBefore idle⟩
  · rintro ⟨earlier, opening, later, fault, rfl, failed, idle⟩
    have loading : ((earlier.foldl act session).act (.opening opening)).phase = .loading := by
      rcases opening_phase opening (earlier.foldl act session) with ⟨ready, _⟩ | ⟨_, _, loading, _⟩
      · rw [failed] at ready
        cases ready
      · exact loading
    rw [List.foldl_append, List.foldl_cons, idle_run (by rw [loading]; rfl) idle, loading]

/-- **A session is uninitialized** exactly when all its steps were idle. -/
theorem uninitialized_iff {session : Session σ} (new : session.phase = .uninitialized)
    (actions : List Action) :
    (actions.foldl act session).phase = .uninitialized ↔
      ∀ step ∈ session.steps actions, Idle step := by
  constructor
  · intro uninitialized
    induction actions using List.reverseRecOn with
    | nil => exact fun _ member => absurd member List.not_mem_nil
    | append_singleton actions action ih =>
      rw [List.foldl_append, List.foldl_cons, List.foldl_nil] at uninitialized
      rcases act_hidden (by rw [uninitialized]; rfl) with ⟨_, _, _, _, loading⟩ | ⟨idle, same⟩
      · rw [loading] at uninitialized
        cases uninitialized
      · exact idle_concat (ih (same ▸ uninitialized)) idle
  · intro idle
    rw [idle_run (by rw [new]; rfl) idle, new]

/-! ### A document is modified -/

/-- A step that takes note of events is idle. -/
theorem idle_of_noted {session : Session σ} {action : Action} {event : CanvasEvent}
    (noted : event ∈ session.noted action) : Idle (session, action) := by
  cases action with
  | pump => exact ⟨rfl, not_false⟩
  | handle event => exact ⟨rfl, not_false⟩
  | _ => cases noted

/-- **A session becomes modified** exactly by taking note of a command while it shows a document. -/
theorem becomes_modified_iff {session : Session σ} (other : session.phase ≠ .modified)
    (action : Action) :
    (session.act action).phase = .modified ↔
      ∃ earlier later, session.noted action = earlier ++ .commandRun :: later ∧
        (earlier.foldl afterEvent session).phase.showsDocument = true := by
  -- Events never change whether a document is shown, so the place of the command is irrelevant.
  have taken : (∃ earlier later, session.noted action = earlier ++ .commandRun :: later ∧
      (earlier.foldl afterEvent session).phase.showsDocument = true) ↔
        session.phase.showsDocument = true ∧ .commandRun ∈ session.noted action := by
    constructor
    · rintro ⟨earlier, later, row, shows⟩
      rw [showsDocument_afterEvents] at shows
      refine ⟨shows, ?_⟩
      rw [row]
      exact List.mem_append_right _ List.mem_cons_self
    · rintro ⟨shows, member⟩
      obtain ⟨earlier, later, row⟩ := List.append_of_mem member
      exact ⟨earlier, later, row, (showsDocument_afterEvents _ _).trans shows⟩
  rw [taken]
  constructor
  · intro modified
    rcases act_phase session action with ⟨_, _, ready | ⟨_, _, loading⟩⟩ | (saved | exported) | idle
    · rw [ready] at modified
      cases modified
    · rw [loading] at modified
      cases modified
    · rw [saved] at modified
      cases modified
    · rw [exported] at modified
      cases modified
    · rw [idle_phase idle] at modified
      split at modified
      · rename_i reported
        exact reported
      · exact absurd modified other
  · rintro ⟨shows, member⟩
    rw [idle_phase (idle_of_noted member), if_pos ⟨shows, member⟩]

/-- **How far a session is follows from what happened to it.** After any run of a new session, over
any storage: a session that is ready, modified, saved or exported has a document on the canvas; it
is loading exactly when the last operation that was to show a document could not even show the
template and no save or export has succeeded since; it is uninitialized exactly when there was no
such operation and no save or export succeeded; and it became modified exactly in those steps in
which it took note of a command while it showed a document. -/
theorem phase_of_run (settings : Settings) (template : String) (storage : σ)
    (actions : List Action) :
    let new := start settings template storage
    let session := actions.foldl act new
    (session.phase.showsDocument = true → session.canvas.current ≠ none) ∧
      (session.phase = .loading ↔
        ∃ earlier opening later fault, actions = earlier ++ .opening opening :: later ∧
          (opening.run (earlier.foldl act new)).1 = .error (.templateRejected fault) ∧
          ∀ step ∈ ((earlier.foldl act new).act (.opening opening)).steps later, Idle step) ∧
      (session.phase = .uninitialized ↔ ∀ step ∈ new.steps actions, Idle step) ∧
      ∀ step ∈ new.steps actions, step.1.phase ≠ .modified →
        ((step.1.act step.2).phase = .modified ↔
          ∃ earlier later, step.1.noted step.2 = earlier ++ .commandRun :: later ∧
            (earlier.foldl afterEvent step.1).phase.showsDocument = true) := by
  intro new session
  have backed : Backed new := Bool.noConfusion
  exact ⟨backed_run backed actions, loading_iff rfl actions, uninitialized_iff rfl actions,
    fun step _ other => becomes_modified_iff other step.2⟩

end Session

end LaneChart
