/-
**What is saved is what is shown,** unless the report of an edit was lost. A session that is saved
learns of an edit from the canvas, and the canvas holds back the newest events only. When a pump
finds none of the reports of an edit left, the session stays saved with another document on the
canvas. There is no other way in which it could.

* `ReliableStorage`: a storage whose calls never fail.
* `Action`, `Session.act`: what can happen to a session; `Session.pumped`: where a run takes note
  of events.
* `Session.Tracked`: a saved session shows what is kept, or a report is on its way.
* `Session.Overlooks`: the reports of an edit were lost.
* `Session.saved_is_shown_iff`: at every pump of a run, saved means saved, exactly when no pump of
  the run overlooks an edit. `Session.saved_is_shown_of_few` is the case of runs in which the
  events that wait never are too many.
-/

import LaneChart.Proofs.Session.Loading
import LaneChart.Session.Editing

namespace LaneChart

/-! ### Storage that never fails -/

/-- **A storage whose calls never fail,** and where every slot holds what was last put there. -/
class ReliableStorage (σ : Type) extends Storage σ where
  content : Slot → σ → Option String
  get_result : ∀ slot storage, (get slot storage).1 = .ok (content slot storage)
  content_get : ∀ slot other storage, content other (get slot storage).2 = content other storage
  set_result : ∀ slot text storage, (set slot text storage).1 = .ok ()
  content_set : ∀ slot text other storage, content other (set slot text storage).2 =
    if other = slot then some text else content other storage
  remove_result : ∀ slot storage, (remove slot storage).1 = .ok ()
  content_remove : ∀ slot other storage, content other (remove slot storage).2 =
    if other = slot then none else content other storage

instance : ReliableStorage Shelf where
  content slot shelf := shelf.content slot
  get_result _ _ := rfl
  content_get _ _ _ := rfl
  set_result _ _ _ := rfl
  content_set _ _ _ _ := rfl
  remove_result _ _ := rfl
  content_remove _ _ _ := rfl

/-- What a session gets to see of a slot is what it holds if no call fails. -/
theorem ReliableStorage.held_eq {σ : Type} [ReliableStorage σ] (slot : Slot) (storage : σ) :
    Storage.held? slot storage = content slot storage := by
  rw [Storage.held?, get_result]
  rfl

/-! ### What can happen -/

/-- **What can happen to a session:** its operations, and what a user and the canvas do. -/
inductive Action where
  | opening (opening : Opening)
  | save (stamp : String)
  | exportXml
  | jsonView
  | updateSelected (patch : Patch)
  | createShape (kind : ElementKind)
  | pump
  | handle (event : CanvasEvent)
  | edit (xml : String)
  | report (event : CanvasEvent)
  | refuse (marker : String)
  | failSaves
  | failCommands
deriving DecidableEq, Repr

namespace Session

variable {σ : Type}

section
variable [Storage σ]

/-- The session after an action. -/
def act (session : Session σ) : Action → Session σ
  | .opening opening => (opening.run session).2
  | .save stamp => (save stamp session).2
  | .exportXml => (exportXml session).2
  | .jsonView => (jsonView session).2
  | .updateSelected patch => (updateSelected patch session).2
  | .createShape kind => (createShape kind session).2
  | .pump => (pump session).2
  | .handle event => (handle event session).2
  | .edit xml => { session with canvas := session.canvas.edit xml }
  | .report event => { session with canvas := session.canvas.report event }
  | .refuse marker => { session with canvas := session.canvas.refuse marker }
  | .failSaves => { session with canvas := { session.canvas with failSaves := true } }
  | .failCommands => { session with canvas := { session.canvas with failCommands := true } }

/-- The sessions in which a run takes note of events, as they are right before. -/
def pumped : Session σ → List Action → List (Session σ)
  | _, [] => []
  | session, action :: rest =>
    (if action = .pump then [session] else []) ++ pumped (session.act action) rest

end

/-! ### What is tracked -/

section
variable [ReliableStorage σ]

/-- The document on the canvas is the one in the storage. -/
def Kept (session : Session σ) : Prop :=
  ∃ xml, ReliableStorage.content .diagram session.storage = some xml ∧
    session.canvas.current = some xml

/-- **An edit is overlooked:** the document was changed after it was saved, the canvas reported
that, and none of the reports is left. -/
structure Overlooks (session : Session σ) : Prop where
  saved : session.phase = .saved
  changed : ¬ session.Kept
  reported : .commandRun ∈ session.canvas.outbox
  lost : .commandRun ∉ session.canvas.waiting

/-- **A saved session shows what is kept,** or a report that it does not is on its way. -/
def Tracked (session : Session σ) : Prop :=
  session.phase = .saved → session.Kept ∨ .commandRun ∈ session.canvas.outbox

end

/-- An operation left alone what is kept, and the document that is shown. No event was taken
back. -/
structure Aside (before after : Session σ) : Prop where
  phase : after.phase = before.phase
  storage : after.storage = before.storage
  current : after.canvas.current = before.canvas.current
  outbox : before.canvas.outbox ⊆ after.canvas.outbox

theorem Aside.refl (session : Session σ) : Aside session session :=
  ⟨rfl, rfl, rfl, fun _ member => member⟩

theorem Aside.trans {first second third : Session σ} (left : Aside first second)
    (right : Aside second third) : Aside first third where
  phase := right.phase.trans left.phase
  storage := right.storage.trans left.storage
  current := right.current.trans left.current
  outbox := fun _ member => right.outbox (left.outbox member)

theorem Tracked.of_aside [ReliableStorage σ] {before after : Session σ} (tracked : Tracked before)
    (aside : Aside before after) : Tracked after := by
  intro saved
  rw [aside.phase] at saved
  rcases tracked saved with ⟨xml, kept, shown⟩ | reported
  · exact .inl ⟨xml, by rw [aside.storage, kept], by rw [aside.current, shown]⟩
  · exact .inr (aside.outbox reported)

theorem Tracked.of_phase [ReliableStorage σ] {session : Session σ}
    (other : session.phase ≠ .saved) : Tracked session := fun saved => absurd saved other

theorem aside_inform (kind : NoticeKind) (message : String) (session : Session σ) :
    Aside session (inform kind message session).2 := ⟨rfl, rfl, rfl, fun _ member => member⟩

theorem aside_report (event : CanvasEvent) (session : Session σ) :
    Aside session { session with canvas := session.canvas.report event } :=
  ⟨rfl, rfl, rfl, fun _ member => List.mem_append_left _ member⟩

/-! ### Commands -/

/-- A command changes the elements on the canvas and is reported, but the document that the canvas
hands out stays the same. -/
theorem aside_updateProperties {id : String} {patch : Patch} {session : Session σ}
    {changed : Canvas} (done : session.canvas.updateProperties id patch = .ok changed) :
    Aside session { session with canvas := changed } := by
  unfold Canvas.updateProperties at done
  split at done
  · cases done
  · split at done
    · cases done
    · cases done
      exact ⟨rfl, rfl, rfl, fun _ member => List.mem_append_left _ member⟩

/-- A patch that changes nothing is not sent, and one that is sent is answered by the canvas. -/
theorem send_run (id : String) (patch : Patch) (session : Session σ) :
    send id patch session =
      if patch.isEmpty then (.ok (), session)
      else
        match session.canvas.updateProperties id patch with
        | .ok changed => (.ok (), { session with canvas := changed })
        | .error fault => (.error fault, session) := by
  unfold send
  split
  · rfl
  · rw [command]
    cases session.canvas.updateProperties id patch <;> rfl

theorem aside_send (id : String) (patch : Patch) (session : Session σ) :
    Aside session (send id patch session).2 := by
  rw [send_run]
  split
  · exact .refl _
  · cases done : session.canvas.updateProperties id patch with
    | ok changed => exact aside_updateProperties done
    | error fault => exact .refl _

theorem aside_updateSelected (patch : Patch) (session : Session σ) :
    Aside session (updateSelected patch session).2 := by
  simp only [updateSelected, run_bind, get_run]
  cases session.selected with
  | none => exact .refl _
  | some selection =>
    have sent := aside_send selection.id (reduced selection.id patch) session
    simp only [run_bind]
    cases (send selection.id (reduced selection.id patch) session).1 with
    | ok => exact sent.trans ⟨rfl, rfl, rfl, fun _ member => member⟩
    | error fault => exact sent.trans (aside_inform _ _ _)

theorem aside_createShape (kind : ElementKind) (session : Session σ) :
    Aside session (createShape kind session).2 := by
  unfold createShape
  cases toolFor? kind with
  | none => exact aside_inform _ _ _
  | some tool =>
    simp only [run_bind, command, Canvas.createShape]
    cases session.canvas.failCommands with
    | true => exact aside_inform _ _ _
    | false => exact ⟨rfl, rfl, rfl, fun _ member => member⟩

theorem aside_jsonView (session : Session σ) : Aside session (jsonView session).2 := by
  simp only [jsonView, run_bind, get_run]
  cases session.canvas.saveXml <;> exact .refl _

/-- Handing out a document ends the phase in which it is saved. -/
theorem exportXml_cases (session : Session σ) :
    (exportXml session).2.phase = .exported ∨ Aside session (exportXml session).2 := by
  simp only [exportXml, run_bind, get_run]
  cases session.canvas.saveXml with
  | ok xml => exact .inl rfl
  | error fault => exact .inr (aside_inform _ _ _)

/-! ### The steps of a run -/

/-- An operation that shows a document ends ready, or else loading. -/
theorem phase_opening [Storage σ] (opening : Opening) (session : Session σ) :
    (opening.run session).2.phase ≠ .saved := by
  rcases opening_lands opening session with ⟨_, shows⟩ | ⟨_, _, _, _, stuck⟩
  · rw [shows.phase]
    decide
  · rw [stuck.phase]
    decide

/-- The report of a command changes the phase only, and no session is saved after it. -/
theorem afterCommand_spec (session : Session σ) :
    (session.afterEvent .commandRun).storage = session.storage ∧
      (session.afterEvent .commandRun).canvas = session.canvas ∧
      (session.afterEvent .commandRun).phase ≠ .saved := by
  cases shown : session.phase.showsDocument with
  | true =>
    rw [afterEvent, if_pos shown]
    exact ⟨rfl, rfl, Phase.noConfusion⟩
  | false =>
    rw [afterEvent, if_neg (by rw [shown]; exact Bool.noConfusion)]
    refine ⟨rfl, rfl, fun saved => ?_⟩
    rw [saved] at shown
    cases shown

theorem current_of_saveXml {canvas : Canvas} {xml : String} (done : canvas.saveXml = .ok xml) :
    canvas.current = some xml := by
  unfold Canvas.saveXml at done
  split at done
  · cases done
  · split at done
    · cases done
      assumption
    · cases done

variable [ReliableStorage σ]

theorem tracked_start (settings : Settings) (template : String) (storage : σ) :
    Tracked (start settings template storage) := .of_phase Phase.noConfusion

/-- The document and the time are put into the storage, and nothing else changes. -/
theorem keepSaved_kept (xml stamp : String) (session : Session σ) :
    (keepSaved xml stamp session).1 = .ok () ∧
      ReliableStorage.content .diagram (keepSaved xml stamp session).2.storage = some xml ∧
      (keepSaved xml stamp session).2.canvas = session.canvas := by
  have first : (callStorage (Storage.set .diagram xml) session).1 = .ok () :=
    ReliableStorage.set_result .diagram xml session.storage
  have second : (callStorage (Storage.set .timestamp stamp)
      (callStorage (Storage.set .diagram xml) session).2).1 = .ok () :=
    ReliableStorage.set_result .timestamp stamp (Storage.set .diagram xml session.storage).2
  simp only [keepSaved, run_bind, first]
  refine ⟨second, ?_, rfl⟩
  calc ReliableStorage.content .diagram
        (Storage.set .timestamp stamp (Storage.set .diagram xml session.storage).2).2
      = ReliableStorage.content .diagram (Storage.set .diagram xml session.storage).2 :=
        (ReliableStorage.content_set _ _ _ _).trans (if_neg Slot.noConfusion)
    _ = some xml := (ReliableStorage.content_set _ _ _ _).trans (if_pos rfl)

/-- The document that was put into the storage is the one on the canvas. -/
theorem tracked_save {session : Session σ} (tracked : Tracked session) (stamp : String) :
    Tracked (save stamp session).2 := by
  simp only [save, run_bind, get_run]
  cases done : session.canvas.saveXml with
  | error fault => exact tracked.of_aside (aside_inform _ _ _)
  | ok xml =>
    obtain ⟨result, kept, canvas⟩ := keepSaved_kept xml stamp session
    have shown : (keepSaved xml stamp session).2.canvas.current = some xml := by
      rw [canvas, current_of_saveXml done]
    simp only [run_bind, result]
    exact fun _ => .inl ⟨xml, kept, shown⟩

/-- An edit is on the canvas at once, and its report waits. -/
theorem tracked_edit (xml : String) (session : Session σ) : Tracked (session.act (.edit xml)) :=
  fun _ => .inr (List.mem_append_right _ (List.mem_singleton.mpr rfl))

/-- **Every action but a pump keeps track.** -/
theorem tracked_act {session : Session σ} (tracked : Tracked session) {action : Action}
    (other : action ≠ .pump) : Tracked (session.act action) := by
  cases action with
  | opening opening => exact .of_phase (phase_opening opening session)
  | save stamp => exact tracked_save tracked stamp
  | exportXml =>
    rcases exportXml_cases session with exported | aside
    · exact .of_phase (by rw [act, exported]; decide)
    · exact tracked.of_aside aside
  | jsonView => exact tracked.of_aside (aside_jsonView session)
  | updateSelected patch => exact tracked.of_aside (aside_updateSelected patch session)
  | createShape kind => exact tracked.of_aside (aside_createShape kind session)
  | pump => exact absurd rfl other
  | handle event =>
    cases event with
    | selectionChanged selection =>
      exact tracked.of_aside ⟨rfl, rfl, rfl, fun _ member => member⟩
    | commandRun => exact .of_phase session.afterCommand_spec.2.2
  | edit xml => exact tracked_edit xml session
  | report event => exact tracked.of_aside (aside_report event session)
  | refuse marker => exact tracked.of_aside ⟨rfl, rfl, rfl, fun _ member => member⟩
  | failSaves => exact tracked.of_aside ⟨rfl, rfl, rfl, fun _ member => member⟩
  | failCommands => exact tracked.of_aside ⟨rfl, rfl, rfl, fun _ member => member⟩

/-! ### What a pump does -/

omit [ReliableStorage σ] in
/-- Events leave the document alone, and a session stays saved when no command is among them. -/
theorem afterEvents_spec (events : List CanvasEvent) (session : Session σ) :
    (events.foldl afterEvent session).storage = session.storage ∧
      (events.foldl afterEvent session).canvas = session.canvas ∧
      ((events.foldl afterEvent session).phase = .saved ↔
        session.phase = .saved ∧ .commandRun ∉ events) := by
  induction events generalizing session with
  | nil => exact ⟨rfl, rfl, fun saved => ⟨saved, List.not_mem_nil⟩, And.left⟩
  | cons event events ih =>
    obtain ⟨storage, canvas, phase⟩ := ih (session.afterEvent event)
    cases event with
    | selectionChanged selection =>
      refine ⟨storage, canvas, phase.trans (and_congr_right fun _ => not_congr ?_)⟩
      exact ⟨List.mem_cons_of_mem _, fun member => (List.mem_cons.mp member).resolve_left nofun⟩
    | commandRun =>
      obtain ⟨sameStorage, sameCanvas, moved⟩ := session.afterCommand_spec
      refine ⟨storage.trans sameStorage, canvas.trans sameCanvas, ?_, ?_⟩
      · intro saved
        exact absurd (phase.mp saved).1 moved
      · rintro ⟨_, none⟩
        exact absurd List.mem_cons_self none

/-- A pump leaves the document alone, and a session stays saved when no report of a command is
left. -/
theorem pump_spec (session : Session σ) :
    ((session.act .pump).Kept ↔ session.Kept) ∧
      ((session.act .pump).phase = .saved ↔
        session.phase = .saved ∧ .commandRun ∉ session.canvas.waiting) := by
  obtain ⟨storage, canvas, phase⟩ := afterEvents_spec session.canvas.waiting session
  refine ⟨?_, phase⟩
  change (∃ xml, ReliableStorage.content .diagram
      (session.canvas.waiting.foldl afterEvent session).storage = some xml ∧
    (session.canvas.waiting.foldl afterEvent session).canvas.current = some xml) ↔ _
  rw [storage, canvas]
  rfl

/-- A pump leaves a session saved with another document on the canvas exactly when it overlooks
an edit. -/
theorem pump_iff {session : Session σ} (tracked : Tracked session) :
    ((session.act .pump).phase = .saved → (session.act .pump).Kept) ↔ ¬ session.Overlooks := by
  obtain ⟨kept, phase⟩ := session.pump_spec
  constructor
  · intro promise overlooks
    exact overlooks.changed (kept.mp (promise (phase.mpr ⟨overlooks.saved, overlooks.lost⟩)))
  · intro seen saved
    obtain ⟨before, lost⟩ := phase.mp saved
    by_cases changed : session.Kept
    · exact kept.mpr changed
    · have reported := (tracked before).resolve_left changed
      exact absurd ⟨before, changed, reported, lost⟩ seen

/-- **Saved means saved at every pump of a run that starts from a tracked session,** exactly when
none of the pumps overlooks an edit. -/
theorem pumped_iff (actions : List Action) {session : Session σ} (tracked : Tracked session) :
    (∀ before ∈ session.pumped actions,
        (before.act .pump).phase = .saved → (before.act .pump).Kept) ↔
      ∀ before ∈ session.pumped actions, ¬ before.Overlooks := by
  induction actions generalizing session with
  | nil => exact ⟨fun _ _ => nofun, fun _ _ => nofun⟩
  | cons action actions ih =>
    by_cases here : action = .pump
    · -- After a pump that overlooks nothing, the session is tracked again.
      subst here
      have listed : session.pumped (.pump :: actions) =
          session :: (session.act .pump).pumped actions := rfl
      rw [listed, List.forall_mem_cons, List.forall_mem_cons, pump_iff tracked]
      refine and_congr_right fun seen => ih ?_
      exact fun saved => .inl ((pump_iff tracked).mpr seen saved)
    · have listed : session.pumped (action :: actions) = (session.act action).pumped actions := by
        rw [pumped, if_neg here, List.nil_append]
      rw [listed]
      exact ih (tracked_act tracked here)

/-- **Saved means saved,** unless an edit is overlooked. In a run of a session over a storage that
never fails, whenever a pump leaves the session saved, the document on the canvas is the one in
the storage; this holds at all pumps of the run exactly when none of them finds all reports of an
edit lost. -/
theorem saved_is_shown_iff (settings : Settings) (template : String) (storage : σ)
    (actions : List Action) :
    (∀ before ∈ (start settings template storage).pumped actions,
        (before.act .pump).phase = .saved → (before.act .pump).Kept) ↔
      ∀ before ∈ (start settings template storage).pumped actions, ¬ before.Overlooks :=
  pumped_iff actions (tracked_start settings template storage)

/-- A run in which an edit is overlooked: after it, as many events are reported as can wait. -/
def crowdedRun : List Action :=
  [.opening (.importDiagram "<a/>"), .save "", .edit "<b/>"] ++
    List.replicate Canvas.capacity (.report (.selectionChanged none))

/-- The edit in such a run is not saved, and the session is saved all the same. -/
theorem crowdedRun_saved :
    ∃ before ∈ (start {} blankDocument ({} : Shelf)).pumped (crowdedRun ++ [.pump]),
      (before.act .pump).phase = .saved ∧ ¬ (before.act .pump).Kept := by
  have listed : (start {} blankDocument ({} : Shelf)).pumped (crowdedRun ++ [.pump]) =
      [crowdedRun.foldl act (start {} blankDocument {})] := rfl
  rw [listed]
  refine ⟨_, List.mem_singleton.mpr rfl, by decide +kernel, ?_⟩
  rintro ⟨xml, kept, shown⟩
  have stored : some "<a/>" = some xml := kept
  have edited : some "<b/>" = some xml := shown
  exact absurd (stored.trans edited.symm) (by decide)

/-- Nothing is overlooked while the events that were reported can all wait. -/
theorem Overlooks.crowded {session : Session σ} (overlooks : session.Overlooks) :
    Canvas.capacity < session.canvas.outbox.length := by
  refine Nat.lt_of_not_le fun few => ?_
  have all : session.canvas.waiting = session.canvas.outbox := by
    rw [Canvas.waiting, Nat.sub_eq_zero_of_le few, List.drop_zero]
  exact overlooks.lost (all ▸ overlooks.reported)

/-- **Saved means saved in a run that is never crowded.** -/
theorem saved_is_shown_of_few (settings : Settings) (template : String) (storage : σ)
    (actions : List Action)
    (few : ∀ before ∈ (start settings template storage).pumped actions,
      before.canvas.outbox.length ≤ Canvas.capacity) :
    ∀ before ∈ (start settings template storage).pumped actions,
      (before.act .pump).phase = .saved → (before.act .pump).Kept :=
  (pumped_iff actions (tracked_start settings template storage)).mpr fun before member overlooks =>
    absurd overlooks.crowded (Nat.not_lt_of_le (few before member))

end Session

end LaneChart
