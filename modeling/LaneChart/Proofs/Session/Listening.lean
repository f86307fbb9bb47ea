/-
**Taking note replays what the line kept.** The events of a canvas come to the session over a line
that keeps the newest ones only. The session asks the line again and again: it is given an event, or
told that events were lost, or there is nothing more. In the end it has taken note of the newest
events, as many as the line keeps, in the order in which they were reported.

* `Line`, `Line.Keeps`: a line, and what is known of one that keeps so many events.
* `Ring`: such a line, as a row of slots that are written over in turn; `Ring.keeps` says that it is
  one.
* `Session.Listens`: asking until there is nothing more.
* `Session.reported`, `Session.outstanding`: what a step makes the canvas report, and what a run has
  reported since events were taken note of; `Session.outbox_run` says that the canvas has just these.
* `Session.listens_unheard`: what asking comes to.
* `Session.settles_schedule`: events that are taken note of in several goes.
* `Session.pump_replays`: the session that takes note of its events asks, and how often it does makes
  no difference while none are lost.
-/

import LaneChart.Proofs.Session.Phases
import LaneChart.Proofs.Session.Refusals

namespace LaneChart

/-! ### Lines -/

/-- What a listener is told when it asks. -/
inductive Delivery where
  | event (event : CanvasEvent)
  /-- so many events were lost since the listener asked last -/
  | lagged (lost : Nat)
  | nothing
deriving DecidableEq, Repr

/-- **A line** with one listener. -/
structure Line (κ : Type) where
  send : CanvasEvent → κ → κ
  ask : κ → Delivery × κ

namespace Line

variable {κ : Type}

/-- The line after events were sent, first one first. -/
def sendAll (line : Line κ) (state : κ) (events : List CanvasEvent) : κ :=
  events.foldl (fun state event => line.send event state) state

/-- **A line that keeps so many events,** the newest ones. A loss is told once, in front of the
events that are left. `unheard` are the events that the listener was not told anything of. -/
structure Keeps (line : Line κ) (most : Nat) (unheard : κ → List CanvasEvent → Prop) : Prop where
  sent : ∀ {state events}, unheard state events → ∀ event,
    unheard (line.send event state) (events ++ [event])
  quiet : ∀ {state}, unheard state [] →
    (line.ask state).1 = .nothing ∧ unheard (line.ask state).2 []
  next : ∀ {state event events}, unheard state (event :: events) → events.length < most →
    (line.ask state).1 = .event event ∧ unheard (line.ask state).2 events
  late : ∀ {state events}, unheard state events → most < events.length →
    (line.ask state).1 = .lagged (events.length - most) ∧
      unheard (line.ask state).2 (events.rtake most)

theorem Keeps.sentAll {line : Line κ} {most : Nat} {unheard : κ → List CanvasEvent → Prop}
    (keeps : line.Keeps most unheard) {state : κ} {events : List CanvasEvent}
    (before : unheard state events) (more : List CanvasEvent) :
    unheard (line.sendAll state more) (events ++ more) := by
  induction more generalizing state events with
  | nil =>
    rw [List.append_nil]
    exact before
  | cons event more ih =>
    rw [List.append_cons]
    exact ih (keeps.sent before event)

end Line

/-! ### A ring of slots -/

/-- **A ring of slots.** The events are numbered, and each is written into the slot that its number
leads to when the slots are counted round and round. -/
structure Ring where
  slots : Nat → Option CanvasEvent := fun _ => none
  /-- how many events were ever sent -/
  sent : Nat := 0
  /-- how many of them the listener is past -/
  heard : Nat := 0

namespace Ring

/-- A ring with so many slots as a line. -/
def line (most : Nat) : Line Ring where
  send event ring :=
    { ring with
      slots := Function.update ring.slots (ring.sent % most) (some event)
      sent := ring.sent + 1 }
  ask ring :=
    if ring.heard + most < ring.sent then
      (.lagged (ring.sent - most - ring.heard), { ring with heard := ring.sent - most })
    else if ring.heard = ring.sent then (.nothing, ring)
    else
      match ring.slots (ring.heard % most) with
      | some event => (.event event, { ring with heard := ring.heard + 1 })
      | none => (.nothing, ring)

/-- The events that the listener of a ring was not told anything of. Those that were written over
may have been any. -/
structure Unheard (most : Nat) (ring : Ring) (events : List CanvasEvent) : Prop where
  counted : ring.sent = ring.heard + events.length
  written : ∀ (i : Nat) (inside : i < events.length), events.length ≤ i + most →
    ring.slots ((ring.heard + i) % most) = some events[i]

/-- Less than a round apart, two numbers lead to different slots. -/
theorem slot_ne {most first second : Nat} (before : first < second)
    (close : second < first + most) : first % most ≠ second % most := by
  intro same
  have apart : (second - first) % most = 0 := Nat.sub_mod_eq_zero_of_mod_eq same.symm
  rw [Nat.mod_eq_of_lt (by omega)] at apart
  omega

namespace Unheard

variable {most : Nat} {ring : Ring} {events : List CanvasEvent}

/-- An event that is sent writes over one that no longer counts, if over any. -/
theorem send (unheard : Unheard most ring events) (event : CanvasEvent) :
    Unheard most ((line most).send event ring) (events ++ [event]) := by
  have counted := unheard.counted
  refine ⟨by simp only [line, List.length_append, List.length_singleton]; omega, ?_⟩
  intro i inside recent
  rw [List.length_append, List.length_singleton] at inside recent
  show Function.update ring.slots (ring.sent % most) (some event) ((ring.heard + i) % most) = _
  by_cases old : i < events.length
  · have other : (ring.heard + i) % most ≠ ring.sent % most := slot_ne (by omega) (by omega)
    rw [Function.update_of_ne other, unheard.written i old (by omega),
      List.getElem_append_left old]
  · have newest : i = events.length := by omega
    subst newest
    rw [← counted, Function.update_self, List.getElem_concat_length rfl]

theorem ask_quiet (unheard : Unheard most ring []) : (line most).ask ring = (.nothing, ring) := by
  have counted : ring.sent = ring.heard := unheard.counted
  show (if ring.heard + most < ring.sent then _ else _) = _
  rw [if_neg (by omega), if_pos counted.symm]

theorem ask_next {event : CanvasEvent} (unheard : Unheard most ring (event :: events))
    (few : events.length < most) :
    (line most).ask ring = (.event event, { ring with heard := ring.heard + 1 }) := by
  have counted := unheard.counted
  rw [List.length_cons] at counted
  have written : ring.slots (ring.heard % most) = some event :=
    unheard.written 0 (Nat.succ_pos _) (by rw [List.length_cons]; omega)
  show (if ring.heard + most < ring.sent then _ else _) = _
  rw [if_neg (by omega), if_neg (by omega), written]

theorem past_next {event : CanvasEvent} (unheard : Unheard most ring (event :: events)) :
    Unheard most { ring with heard := ring.heard + 1 } events := by
  have counted := unheard.counted
  rw [List.length_cons] at counted
  refine ⟨by show ring.sent = ring.heard + 1 + events.length; omega, ?_⟩
  intro i inside recent
  have shifted := unheard.written (i + 1) (Nat.succ_lt_succ inside)
    (by rw [List.length_cons]; omega)
  rw [List.getElem_cons_succ] at shifted
  rw [← shifted, Nat.add_assoc, Nat.add_comm 1 i]

theorem ask_late (unheard : Unheard most ring events) (many : most < events.length) :
    (line most).ask ring =
      (.lagged (events.length - most), { ring with heard := ring.sent - most }) := by
  have counted := unheard.counted
  have lost : ring.sent - most - ring.heard = events.length - most := by omega
  show (if ring.heard + most < ring.sent then _ else _) = _
  rw [if_pos (by omega), lost]

theorem past_late (unheard : Unheard most ring events) (many : most < events.length) :
    Unheard most { ring with heard := ring.sent - most } (events.rtake most) := by
  have counted := unheard.counted
  have left : (events.rtake most).length = most := by
    rw [List.rtake, List.length_drop]
    omega
  refine ⟨?_, fun i inside recent => ?_⟩
  · show ring.sent = ring.sent - most + _
    rw [left]
    omega
  · rw [left] at inside
    have same := unheard.written (events.length - most + i) (by omega) (by omega)
    have place : ring.sent - most + i = ring.heard + (events.length - most + i) := by omega
    simp only [List.rtake, List.getElem_drop]
    rw [place, same]

end Unheard

/-- **A ring keeps as many events as it has slots.** -/
theorem keeps (most : Nat) : (line most).Keeps most (Unheard most) where
  sent := Unheard.send
  quiet := by
    intro ring unheard
    rw [unheard.ask_quiet]
    exact ⟨rfl, unheard⟩
  next := by
    intro ring event events unheard few
    rw [unheard.ask_next few]
    exact ⟨rfl, unheard.past_next⟩
  late := by
    intro ring events unheard many
    rw [unheard.ask_late many]
    exact ⟨rfl, unheard.past_late many⟩

end Ring

/-- The event that is reported when something happens on the canvas and nowhere else. -/
def Action.event? : Action → Option CanvasEvent
  | report event => some event
  | edit _ => some .commandRun
  | _ => none

namespace Session

variable {σ κ : Type}

/-! ### Asking until there is nothing more -/

/-- **Asking a line until there is nothing more.** Every event that is given is taken note of and
counted; of a loss no note is taken. -/
inductive Listens (line : Line κ) : Session σ → κ → Nat → Session σ → κ → Prop
  | event {session final : Session σ} {state next last : κ} {event : CanvasEvent} {count : Nat} :
      line.ask state = (.event event, next) →
      Listens line (session.afterEvent event) next count final last →
      Listens line session state (count + 1) final last
  | lagged {session final : Session σ} {state next last : κ} {lost count : Nat} :
      line.ask state = (.lagged lost, next) → Listens line session next count final last →
      Listens line session state count final last
  | nothing {session : Session σ} {state last : κ} :
      line.ask state = (.nothing, last) → Listens line session state 0 session last

variable {line : Line κ} {most : Nat} {unheard : κ → List CanvasEvent → Prop}

/-- Asking comes to one thing only. -/
theorem Listens.unique {session first second : Session σ} {state last last' : κ}
    {count count' : Nat} (one : Listens line session state count first last)
    (other : Listens line session state count' second last') :
    count' = count ∧ second = first ∧ last' = last := by
  induction one generalizing count' second last' with
  | event told _ ih =>
    cases other with
    | event told' rest =>
      cases told.symm.trans told'
      obtain ⟨counted, same⟩ := ih rest
      exact ⟨congrArg (· + 1) counted, same⟩
    | lagged told' _ => cases told.symm.trans told'
    | nothing told' => cases told.symm.trans told'
  | lagged told _ ih =>
    cases other with
    | event told' _ => cases told.symm.trans told'
    | lagged told' rest =>
      cases told.symm.trans told'
      exact ih rest
    | nothing told' => cases told.symm.trans told'
  | nothing told =>
    cases other with
    | event told' _ => cases told.symm.trans told'
    | lagged told' _ => cases told.symm.trans told'
    | nothing told' =>
      cases told.symm.trans told'
      exact ⟨rfl, rfl, rfl⟩

/-- **Events of which none was lost** are all taken note of. -/
theorem listens_all (keeps : line.Keeps most unheard) {events : List CanvasEvent}
    (few : events.length ≤ most) {state : κ} (waiting : unheard state events)
    (session : Session σ) :
    ∃ last, Listens line session state events.length (events.foldl afterEvent session) last ∧
      unheard last [] := by
  induction events generalizing state session with
  | nil =>
    obtain ⟨told, still⟩ := keeps.quiet waiting
    exact ⟨(line.ask state).2, .nothing (Prod.ext told rfl), still⟩
  | cons event events ih =>
    obtain ⟨told, left⟩ := keeps.next waiting few
    obtain ⟨last, listens, still⟩ :=
      ih (Nat.le_of_succ_le few) left (session.afterEvent event)
    exact ⟨last, .event (Prod.ext told rfl) listens, still⟩

/-- **What asking comes to:** the newest events are taken note of, as many as the line keeps. -/
theorem listens_unheard (keeps : line.Keeps most unheard) {events : List CanvasEvent} {state : κ}
    (waiting : unheard state events) (session : Session σ) :
    ∃ last, Listens line session state (min events.length most)
        ((events.rtake most).foldl afterEvent session) last ∧
      unheard last [] := by
  by_cases few : events.length ≤ most
  · have all : events.rtake most = events := by
      rw [List.rtake, Nat.sub_eq_zero_of_le few, List.drop_zero]
    rw [all, Nat.min_eq_left few]
    exact listens_all keeps few waiting session
  · have many : most < events.length := Nat.lt_of_not_le few
    have left : (events.rtake most).length = most := by
      rw [List.rtake, List.length_drop]
      omega
    obtain ⟨told, newest⟩ := keeps.late waiting many
    obtain ⟨last, listens, still⟩ := listens_all keeps left.le newest session
    rw [left] at listens
    rw [Nat.min_eq_right many.le]
    exact ⟨last, .lagged (Prod.ext told rfl) listens, still⟩

/-! ### What is outstanding -/

variable [Storage σ]

/-- **What a step makes the canvas report.** An update of the selected element is reported when it
is sent and the canvas carries it out. -/
def reported (session : Session σ) : Action → List CanvasEvent
  | .report event => [event]
  | .edit _ => [.commandRun]
  | .updateSelected patch =>
    match session.selected with
    | none => []
    | some selection =>
      let sent := reduced selection.id patch
      if sent.isEmpty then []
      else
        match session.canvas.updateProperties selection.id sent with
        | .ok _ => [.commandRun]
        | .error _ => []
  | _ => []

/-- **What a run has reported since events were taken note of,** when these events were outstanding
before it. -/
def outstanding : Session σ → List CanvasEvent → List Action → List CanvasEvent
  | _, events, [] => events
  | session, events, action :: rest =>
    outstanding (session.act action)
      (if action = .pump then [] else events ++ session.reported action) rest

theorem outbox_updateSelected (patch : Patch) (session : Session σ) :
    (session.act (.updateSelected patch)).canvas.outbox =
      session.canvas.outbox ++ session.reported (.updateSelected patch) := by
  simp only [act, updateSelected, run_bind, get_run, reported]
  cases session.selected with
  | none => exact (List.append_nil _).symm
  | some selection =>
    simp only [run_bind, send_run]
    cases (reduced selection.id patch).isEmpty with
    | true => exact (List.append_nil _).symm
    | false =>
      cases done : session.canvas.updateProperties selection.id (reduced selection.id patch) with
      | error fault => exact (List.append_nil _).symm
      | ok changed =>
        unfold Canvas.updateProperties at done
        split at done
        · cases done
        split at done
        · cases done
        · cases done
          rfl

/-- **What is in the outbox after a step.** -/
theorem outbox_act (session : Session σ) (action : Action) :
    (session.act action).canvas.outbox =
      if action = .pump then [] else session.canvas.outbox ++ session.reported action := by
  have silent : ∀ {after : Session σ}, after.canvas.outbox = session.canvas.outbox →
      after.canvas.outbox = session.canvas.outbox ++ [] := by
    intro after same
    rw [same, List.append_nil]
  cases action with
  | opening opening =>
    refine silent ?_
    rcases opening_lands opening session with ⟨_, shows⟩ | ⟨_, _, _, _, stuck⟩
    · obtain ⟨ids, _, canvas⟩ := shows.canvas
      rw [act, canvas]
      rfl
    · rw [act, stuck.canvas]
  | save stamp => exact silent (congrArg Canvas.outbox (save_phase stamp session).1)
  | exportXml => exact silent (congrArg Canvas.outbox (exportXml_phase session).1)
  | jsonView => exact silent (congrArg (·.canvas.outbox) (jsonView_refusal session).2)
  | updateSelected patch => exact outbox_updateSelected patch session
  | createShape kind =>
    refine silent ?_
    simp only [act, createShape]
    cases toolFor? kind with
    | none => rfl
    | some tool =>
      simp only [run_bind, command, Canvas.createShape]
      cases session.canvas.failCommands <;> rfl
  | pump => rfl
  | handle event => exact silent (congrArg Canvas.outbox (afterEvents_spec [event] session).2.1)
  | edit xml => rfl
  | report event => rfl
  | refuse marker => exact silent rfl
  | failSaves => exact silent rfl
  | failCommands => exact silent rfl

/-- **What is in the outbox after a run.** -/
theorem outbox_run (actions : List Action) (session : Session σ) :
    (actions.foldl act session).canvas.outbox =
      session.outstanding session.canvas.outbox actions := by
  induction actions generalizing session with
  | nil => rfl
  | cons action actions ih => rw [List.foldl_cons, ih, outstanding, outbox_act]

/-! ### Several goes -/

/-- How many events a run takes note of when it asks for them. -/
def counted (session : Session σ) (actions : List Action) : Nat :=
  ((session.pumped actions).map fun before => (pump before).1).sum

omit [Storage σ] in
/-- What events make of the phase and the selection depends on nothing else. -/
theorem afterEvents_congr {first second : Session σ} (phase : first.phase = second.phase)
    (selected : first.selected = second.selected) (events : List CanvasEvent) :
    (events.foldl afterEvent first).phase = (events.foldl afterEvent second).phase ∧
      (events.foldl afterEvent first).selected = (events.foldl afterEvent second).selected := by
  rw [phase_afterEvents, phase_afterEvents, selected_afterEvents, selected_afterEvents, phase,
    selected]
  exact ⟨rfl, rfl⟩

/-- When there is room for all events, all of them wait. -/
theorem waiting_of_few {canvas : Canvas} (few : canvas.outbox.length ≤ Canvas.capacity) :
    canvas.waiting = canvas.outbox := by
  rw [Canvas.waiting, Nat.sub_eq_zero_of_le few, List.drop_zero]

omit [Storage σ] in
/-- When all events can wait, a pump takes note of all of them. -/
theorem pump_of_few {session : Session σ}
    (few : session.canvas.outbox.length ≤ Canvas.capacity) :
    pump session =
      (session.canvas.outbox.length,
        { session.canvas.outbox.foldl afterEvent session with
          canvas := { (session.canvas.outbox.foldl afterEvent session).canvas with outbox := [] } }) := by
  rw [pump, waiting_of_few few]

theorem counted_cons (session : Session σ) (action : Action) (rest : List Action) :
    session.counted (action :: rest) =
      (if action = .pump then (pump session).1 else 0) + (session.act action).counted rest := by
  rw [counted, pumped]
  by_cases here : action = .pump
  · rw [if_pos here, if_pos here]
    rfl
  · rw [if_neg here, if_neg here, Nat.zero_add]
    rfl

/-- **One go, or one more event:** what all outstanding events come to is the same before and
after. -/
theorem act_alone {action : Action} (alone : action = .pump ∨ action.event?.isSome = true)
    {session : Session σ} (few : session.canvas.outbox.length ≤ Canvas.capacity)
    (later : List CanvasEvent) :
    let before := session.canvas.outbox ++ (action.event?.toList ++ later)
    let after := (session.act action).canvas.outbox ++ later
    (after.foldl afterEvent (session.act action)).phase =
        (before.foldl afterEvent session).phase ∧
      (after.foldl afterEvent (session.act action)).selected =
        (before.foldl afterEvent session).selected ∧
      (if action = .pump then (pump session).1 else 0) + after.length = before.length := by
  intro before after
  have onCanvas : ∀ {event : CanvasEvent} {changed : Canvas},
      changed.outbox = session.canvas.outbox ++ [event] →
        let events := changed.outbox ++ later
        let whole := session.canvas.outbox ++ ([event] ++ later)
        let next : Session σ := { session with canvas := changed }
        (events.foldl afterEvent next).phase = (whole.foldl afterEvent session).phase ∧
          (events.foldl afterEvent next).selected = (whole.foldl afterEvent session).selected ∧
          0 + events.length = whole.length := by
    intro event changed sent events whole next
    have same : events = whole := by
      show changed.outbox ++ later = _
      rw [sent, List.append_assoc]
    obtain ⟨phase, selected⟩ := @afterEvents_congr _ next session rfl rfl whole
    rw [same, Nat.zero_add]
    exact ⟨phase, selected, rfl⟩
  cases action with
  | pump =>
    have done := pump_of_few few
    have same := @afterEvents_congr _ (session.act .pump)
      (session.canvas.outbox.foldl afterEvent session) (congrArg (·.2.phase) done)
      (congrArg (·.2.selected) done) later
    have split : before.foldl afterEvent session =
        later.foldl afterEvent (session.canvas.outbox.foldl afterEvent session) :=
      List.foldl_append
    rw [split]
    refine ⟨same.1, same.2, ?_⟩
    rw [if_pos rfl, congrArg Prod.fst done]
    exact List.length_append.symm
  | report event => exact onCanvas rfl
  | edit xml => exact onCanvas rfl
  | _ => exact absurd alone (by simp [Action.event?])

theorem filterMap_event_cons (action : Action) (rest : List Action) :
    (action :: rest).filterMap Action.event? =
      action.event?.toList ++ rest.filterMap Action.event? := by
  rw [List.filterMap_cons]
  cases action.event? <;> rfl

/-- **Events that are taken note of in several goes** come to the same as all of them at once, when
none are lost and nothing else happens in between. -/
theorem settles_schedule {schedule : List Action}
    (alone : ∀ action ∈ schedule, action = .pump ∨ action.event?.isSome = true)
    {session : Session σ}
    (few : (session.canvas.outbox ++ schedule.filterMap Action.event?).length ≤ Canvas.capacity) :
    let events := session.canvas.outbox ++ schedule.filterMap Action.event?
    let last := (schedule ++ [Action.pump]).foldl act session
    last.phase = (events.foldl afterEvent session).phase ∧
      last.selected = (events.foldl afterEvent session).selected ∧
      session.counted (schedule ++ [.pump]) = events.length := by
  induction schedule generalizing session with
  | nil =>
    rw [List.filterMap_nil, List.append_nil] at few ⊢
    have done := pump_of_few few
    refine ⟨congrArg (·.2.phase) done, congrArg (·.2.selected) done, ?_⟩
    show (pump session).1 + 0 = _
    rw [done]
    rfl
  | cons action schedule ih =>
    obtain ⟨here, later⟩ := List.forall_mem_cons.mp alone
    have outboxFits : session.canvas.outbox.length ≤ Canvas.capacity := by
      rw [List.length_append] at few
      exact Nat.le_of_add_right_le few
    obtain ⟨phase, selected, count⟩ :=
      act_alone here outboxFits (schedule.filterMap Action.event?)
    rw [filterMap_event_cons] at few ⊢
    have rest := @ih later (session.act action) (by omega)
    intro events last
    refine ⟨rest.1.trans phase, rest.2.1.trans selected, ?_⟩
    rw [List.cons_append, counted_cons, rest.2.2, count]

/-! ### The result -/

theorem foldl_handle (events : List CanvasEvent) (session : Session σ) :
    (events.map Action.handle).foldl act session = events.foldl afterEvent session := by
  rw [List.foldl_map]
  rfl

/-- **Taking note of events replays the newest ones,** as many as the line keeps. In every run of a
session over a line that keeps as many events as may wait, let `events` be those that were reported
since events were last taken note of, when the line had nothing left. Asking the line ends, with the
count and the session that handling the newest events one by one in their order would give, and
leaves nothing on the line; a pump does the same. If none were lost, it makes no difference how often
events are taken note of while more are reported. -/
theorem pump_replays {line : Line κ} {unheard : κ → List CanvasEvent → Prop}
    (keeps : line.Keeps Canvas.capacity unheard) {quiet : κ} (heard : unheard quiet [])
    (settings : Settings) (template : String) (storage : σ) (actions : List Action) :
    let session := actions.foldl act (start settings template storage)
    let events := (start settings template storage).outstanding [] actions
    let noted := ((events.rtake Canvas.capacity).map Action.handle).foldl act session
    (∃ after, unheard after [] ∧ ∀ count final last,
        Listens line session (line.sendAll quiet events) count final last ↔
          count = min events.length Canvas.capacity ∧ final = noted ∧ last = after) ∧
      pump session = (min events.length Canvas.capacity,
        { noted with canvas := { noted.canvas with outbox := [] } }) ∧
      ∀ schedule : List Action,
        (∀ action ∈ schedule, action = .pump ∨ action.event?.isSome = true) →
        events.length + (schedule.filterMap Action.event?).length ≤ Canvas.capacity →
        let often := schedule ++ [Action.pump]
        let once := schedule.filter (· ≠ .pump) ++ [Action.pump]
        (often.foldl act session).phase = (once.foldl act session).phase ∧
          (often.foldl act session).selected = (once.foldl act session).selected ∧
          session.counted often = session.counted once := by
  intro session events noted
  have outbox : session.canvas.outbox = events := outbox_run actions _
  have replayed : noted = (events.rtake Canvas.capacity).foldl afterEvent session :=
    foldl_handle _ _
  have waiting : unheard (line.sendAll quiet events) events := keeps.sentAll heard events
  refine ⟨?_, ?_, ?_⟩
  · obtain ⟨after, listens, still⟩ := listens_unheard keeps waiting session
    rw [← replayed] at listens
    refine ⟨after, still, fun count final last => ⟨listens.unique, ?_⟩⟩
    rintro ⟨rfl, rfl, rfl⟩
    exact listens
  · have kept : session.canvas.waiting = events.rtake Canvas.capacity := by
      rw [← outbox]
      rfl
    have many : (events.rtake Canvas.capacity).length = min events.length Canvas.capacity := by
      rw [List.rtake, List.length_drop]
      omega
    rw [pump, kept, replayed, many]
  · intro schedule alone few often once
    have all : (session.canvas.outbox ++ schedule.filterMap Action.event?).length ≤
        Canvas.capacity := by
      rw [outbox, List.length_append]
      exact few
    have same : (schedule.filter (· ≠ .pump)).filterMap Action.event? =
        schedule.filterMap Action.event? := by
      rw [List.filterMap_filter]
      refine List.filterMap_congr fun action _ => ?_
      cases action <;> rfl
    obtain ⟨phase, selected, count⟩ := settles_schedule alone all
    have rarely : ∀ action ∈ schedule.filter (· ≠ .pump),
        action = .pump ∨ action.event?.isSome = true :=
      fun action member => alone action (List.mem_of_mem_filter member)
    obtain ⟨phase', selected', count'⟩ := settles_schedule rarely (same ▸ all)
    rw [same] at phase' selected' count'
    exact ⟨phase.trans phase'.symm, selected.trans selected'.symm, count.trans count'.symm⟩

/-- A run that only shows a document. -/
def shownRun : List Action := [.opening (.importDiagram "<a/>")]

/-- Over a ring, a crowded run loses one event of its sixty-five. After a document was shown, an
edit and a selection may be taken note of one by one. -/
theorem pump_replays_ring :
    let line := Ring.line Canvas.capacity
    let first := start {} blankDocument ({} : Shelf)
    let crowded := first.outstanding [] crowdedRun
    let schedule := [.edit "<b/>", .pump, .report (.selectionChanged none)]
    Ring.Unheard Canvas.capacity {} [] ∧ crowded.length = 65 ∧
      (∃ noted last,
        Listens line (crowdedRun.foldl act first) (line.sendAll {} crowded) 64 noted last ∧
          Ring.Unheard Canvas.capacity last []) ∧
      first.outstanding [] shownRun = [] ∧
      (shownRun.foldl act first).counted (schedule ++ [.pump]) = 2 ∧
      (shownRun.foldl act first).counted (schedule.filter (· ≠ .pump) ++ [.pump]) = 2 := by
  intro line first crowded schedule
  have keeps : line.Keeps Canvas.capacity (Ring.Unheard Canvas.capacity) := Ring.keeps _
  have heard : Ring.Unheard Canvas.capacity {} [] := ⟨rfl, fun _ inside => nomatch inside⟩
  have many : crowded.length = 65 := by decide +kernel
  have none : first.outstanding [] shownRun = [] := by decide +kernel
  obtain ⟨⟨last, still, listens⟩, _⟩ :=
    pump_replays keeps heard {} blankDocument ({} : Shelf) crowdedRun
  obtain ⟨_, _, goes⟩ := pump_replays keeps heard {} blankDocument ({} : Shelf) shownRun
  obtain ⟨_, _, counted⟩ := goes schedule (by decide) (by rw [none]; decide)
  have once : (shownRun.foldl act first).counted (schedule.filter (· ≠ .pump) ++ [.pump]) = 2 := by
    decide +kernel
  have capped : 64 = min crowded.length Canvas.capacity := by
    rw [many]
    rfl
  have heardAll := (listens 64 _ last).mpr ⟨capped, rfl, rfl⟩
  exact ⟨heard, many, ⟨_, last, heardAll, still⟩, none, counted.trans once, once⟩

end Session

end LaneChart
