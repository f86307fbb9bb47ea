/-
**A plan that was shown can be lost.** When a session shows the plan that waited, it puts the
document into its slot and then takes the plan out of its own. The two calls to the storage fail
independently, and the second one is made even if the first one failed. Then neither the document
nor the plan is left, and no later session can bring it up again. There is no other way to lose it.

* `FallibleStorage`: a storage whose calls may fail; `ScheduledShelf` is one.
* `Session.load_storage_of_plan`: the calls that are made to the storage when a plan is shown.
* `Session.Drops`: the document was not written, and the plan was removed all the same.
* `Session.shown_plan_survives_iff`: a plan that was shown is still there, or its document is,
  exactly when it is not dropped; as long as one of them is, a later session shows it again.
-/

import LaneChart.Proofs.Session.Restart

namespace LaneChart

/-! ### Storage that fails -/

/-- **A storage whose calls may fail.** A call that succeeds does what it says, and one that fails
changes no slot. Which calls fail is up to the storage, and may be different every time. -/
class FallibleStorage (σ : Type) extends Storage σ where
  content : Slot → σ → Option String
  get_ok : ∀ slot storage text, (get slot storage).1 = .ok text → text = content slot storage
  content_get : ∀ slot other storage, content other (get slot storage).2 = content other storage
  content_set : ∀ slot text other storage, content other (set slot text storage).2 =
    if (set slot text storage).1.isOk = true ∧ other = slot then some text
    else content other storage
  content_remove : ∀ slot other storage, content other (remove slot storage).2 =
    if (remove slot storage).1.isOk = true ∧ other = slot then none else content other storage

/-- **A shelf with a schedule** that says of every call to come whether it fails. -/
structure ScheduledShelf where
  shelf : Shelf := {}
  fails : Nat → Bool := fun _ => false

namespace ScheduledShelf

/-- Makes a call to the shelf unless it is scheduled to fail. -/
def attempt {α : Type} (run : StateM Shelf (Except StorageFault α)) :
    StateM ScheduledShelf (Except StorageFault α) := fun storage =>
  let later := fun call => storage.fails (call + 1)
  if storage.fails 0 then (.error OutOfService.fault, { storage with fails := later })
  else ((run storage.shelf).1, ⟨(run storage.shelf).2, later⟩)

/-- A call fails and leaves the shelf as it is, or it is made. -/
theorem attempt_eq {α : Type} (run : StateM Shelf (Except StorageFault α))
    (storage : ScheduledShelf) :
    ((attempt run storage).1 = .error OutOfService.fault ∧
        (attempt run storage).2.shelf = storage.shelf) ∨
      ((attempt run storage).1 = (run storage.shelf).1 ∧
        (attempt run storage).2.shelf = (run storage.shelf).2) := by
  unfold attempt
  cases storage.fails 0 with
  | true => exact .inl ⟨rfl, rfl⟩
  | false => exact .inr ⟨rfl, rfl⟩

end ScheduledShelf

instance : FallibleStorage ScheduledShelf where
  get slot := ScheduledShelf.attempt (Storage.get slot)
  set slot text := ScheduledShelf.attempt (Storage.set slot text)
  remove slot := ScheduledShelf.attempt (Storage.remove slot)
  content slot storage := storage.shelf.content slot
  get_ok slot storage text done := by
    rcases ScheduledShelf.attempt_eq (Storage.get slot) storage with ⟨failed, _⟩ | ⟨read, _⟩
    · rw [failed] at done
      cases done
    · rw [read] at done
      exact (Except.ok.inj done).symm
  content_get slot other storage := by
    rcases ScheduledShelf.attempt_eq (Storage.get slot) storage with ⟨_, same⟩ | ⟨_, same⟩
    · rw [same]
    · rw [same]
      rfl
  content_set slot text other storage := by
    rcases ScheduledShelf.attempt_eq (Storage.set slot text) storage with
      ⟨failed, same⟩ | ⟨done, put⟩
    · rw [failed, same]
      exact (if_neg fun done => Bool.noConfusion done.1).symm
    · rw [done, put]
      simp [Storage.set, Except.isOk, Except.toBool, Shelf.put]
  content_remove slot other storage := by
    rcases ScheduledShelf.attempt_eq (Storage.remove slot) storage with
      ⟨failed, same⟩ | ⟨done, put⟩
    · rw [failed, same]
      exact (if_neg fun done => Bool.noConfusion done.1).symm
    · rw [done, put]
      simp [Storage.remove, Except.isOk, Except.toBool, Shelf.put]

namespace FallibleStorage

variable {σ : Type} [FallibleStorage σ]

/-- What is read from a slot is what it holds. -/
theorem content_of_held {slot : Slot} {storage : σ} {text : String}
    (held : Storage.held? slot storage = some text) : content slot storage = some text := by
  rw [Storage.held?] at held
  cases read : (Storage.get slot storage).1 with
  | error fault =>
    rw [read] at held
    cases held
  | ok found =>
    rw [read] at held
    rw [← get_ok slot storage found read]
    exact held

/-- What a slot holds is read from it if the call succeeds. -/
theorem held_of_isOk {slot : Slot} {storage : σ} (done : (Storage.get slot storage).1.isOk = true) :
    Storage.held? slot storage = content slot storage := by
  rw [Storage.held?]
  cases read : (Storage.get slot storage).1 with
  | error fault =>
    rw [read] at done
    cases done
  | ok found =>
    rw [← get_ok slot storage found read]
    rfl

end FallibleStorage

namespace Session

open FallibleStorage

variable {σ : Type}

/-! ### Plans that can be shown -/

/-- A new session takes what can be summarized. -/
theorem taken_start {settings : Settings} {template xml : String} {storage : σ} {source : Source}
    (document : source.document? settings = some xml) (readable : (summarize xml).isOk = true) :
    (start settings template storage).taken? source = some xml := by
  have plain : (start settings template storage).canvas.refused = [] := rfl
  refine Option.filter_eq_some_iff.mpr ⟨document, ?_⟩
  rw [Canvas.isOk_inspect plain, readable]

/-- A plan that can be read can be shown in a new session. -/
theorem exists_taken_start {plan : String} (readable : (Draft.ofPlan plan).isOk = true)
    (settings : Settings) (template : String) (storage : σ) :
    ∃ xml, (start settings template storage).taken? (.plan plan) = some xml := by
  cases read : Draft.ofPlan plan with
  | error fault =>
    rw [read] at readable
    cases readable
  | ok draft =>
    have document : (Source.plan plan).document? settings = some (settings.compile draft) := by
      rw [Source.document?, read]
      rfl
    exact ⟨_, taken_start document (settings.isOk_summarize_compile draft)⟩

/-- What waits and can be shown is shown. -/
theorem load_shows_kept [Storage σ] {session : Session σ} {xml : String}
    (wanted : (Opening.kept? session.storage).bind session.taken? = some xml) :
    (load session).1 = .ok .ready ∧ (load session).2.canvas.current = some xml := by
  have lands := load_lands session
  rw [wanted] at lands
  exact lands.of_some

/-- A plan that waits and can be shown is shown. -/
theorem load_shows_plan [Storage σ] {session : Session σ} {plan xml : String}
    (waits : Storage.held? .pending session.storage = some plan)
    (taken : session.taken? (.plan plan) = some xml) :
    (load session).1 = .ok .ready ∧ (load session).2.canvas.current = some xml := by
  refine load_shows_kept ?_
  rw [Opening.kept?, waits]
  exact taken

/-! ### The calls -/

/-- **The calls that are made to a storage when a plan is shown:** the plan is read, the document is
written, and the plan is removed. -/
theorem load_storage_of_plan [Storage σ] {session : Session σ} {plan xml : String}
    (waits : Storage.held? .pending session.storage = some plan)
    (taken : session.taken? (.plan plan) = some xml) :
    (load session).2.storage = (Storage.remove .pending
      (Storage.set .diagram xml (Storage.get .pending session.storage).2).2).2 := by
  have storage : (enter .loading session).2.storage = session.storage := rfl
  have view := (sameView_enter .loading session).trans (sameView_readSlot .pending _)
  simp only [load, run_bind, readSlot_result, storage, waits]
  rw [loadPending_storage, view.taken, taken, readSlot_storage]
  rfl

variable [FallibleStorage σ]

/-- **A plan is dropped:** its document could not be written, is not there already, and the plan was
removed. -/
structure Drops (session : Session σ) (xml : String) : Prop where
  unwritten : (Storage.set .diagram xml (Storage.get .pending session.storage).2).1.isOk = false
  absent : content .diagram session.storage ≠ some xml
  removed : (Storage.remove .pending
    (Storage.set .diagram xml (Storage.get .pending session.storage).2).2).1.isOk = true

/-- The slots after a plan was shown. -/
theorem content_load_of_plan {session : Session σ} {plan xml : String}
    (waits : Storage.held? .pending session.storage = some plan)
    (taken : session.taken? (.plan plan) = some xml) :
    content .diagram (load session).2.storage =
        (if (Storage.set .diagram xml (Storage.get .pending session.storage).2).1.isOk = true then
          some xml else content .diagram session.storage) ∧
      content .pending (load session).2.storage =
        if (Storage.remove .pending (Storage.set .diagram xml
          (Storage.get .pending session.storage).2).2).1.isOk = true then none
        else some plan := by
  rw [load_storage_of_plan waits taken, content_remove, content_set, content_get, content_remove,
    content_set, content_get, content_of_held waits]
  simp

/-! ### What is left -/

/-- What waits in a storage from which both slots can be read. -/
theorem kept_of_readable {storage : σ} (first : (Storage.get .pending storage).1.isOk = true)
    (second : (Storage.get .diagram (Storage.get .pending storage).2).1.isOk = true) :
    Opening.kept? storage =
      match content .pending storage with
      | some plan => some (.plan plan)
      | none => (content .diagram storage).map .document := by
  have read : Opening.kept? storage =
      match Storage.held? .pending storage with
      | some plan => some (.plan plan)
      | none => (Storage.held? .diagram (Storage.get .pending storage).2).map .document := rfl
  rw [held_of_isOk first, held_of_isOk second, content_get] at read
  exact read

/-- **What is left of a plan brings its document up again.** -/
theorem load_start_of_left {session : Session σ} {plan xml template : String} {storage : σ}
    (taken : session.taken? (.plan plan) = some xml)
    (pending : content .pending storage = some plan ∨
      content .pending storage = none ∧ content .diagram storage = some xml)
    (first : (Storage.get .pending storage).1.isOk = true)
    (second : (Storage.get .diagram (Storage.get .pending storage).2).1.isOk = true) :
    (load (start session.settings template storage)).1 = .ok .ready ∧
      (load (start session.settings template storage)).2.canvas.current = some xml := by
  have readable := isOk_summarize_of_taken taken
  have document : (Source.plan plan).document? session.settings = some xml :=
    (Option.filter_eq_some_iff.mp taken).1
  have kept : (start session.settings template storage).storage = storage := rfl
  refine load_shows_kept ?_
  rw [kept, kept_of_readable first second]
  -- The plan compiles to the document that was written, so either slot leads to the same canvas.
  rcases pending with waits | ⟨idle, written⟩
  · rw [waits]
    exact taken_start document readable
  · rw [idle, written]
    exact taken_start rfl readable

/-- Something is left of a plan that was shown unless it was dropped. -/
theorem left_of_plan_iff {session : Session σ} {plan xml : String}
    (waits : Storage.held? .pending session.storage = some plan)
    (taken : session.taken? (.plan plan) = some xml) :
    (content .diagram (load session).2.storage = some xml ∨
        content .pending (load session).2.storage = some plan) ↔ ¬ session.Drops xml := by
  obtain ⟨diagram, pending⟩ := content_load_of_plan waits taken
  rw [diagram, pending]
  constructor
  · rintro (written | left) dropped
    · rw [dropped.unwritten, if_neg Bool.false_ne_true] at written
      exact dropped.absent written
    · rw [dropped.removed, if_pos rfl] at left
      cases left
  · intro kept
    cases written : (Storage.set .diagram xml (Storage.get .pending session.storage).2).1.isOk with
    | true => exact .inl (if_pos rfl)
    | false =>
      cases removed : (Storage.remove .pending (Storage.set .diagram xml
          (Storage.get .pending session.storage).2).2).1.isOk with
      | false => exact .inr (if_neg Bool.false_ne_true)
      | true =>
        by_cases there : content .diagram session.storage = some xml
        · exact .inl ((if_neg Bool.false_ne_true).trans there)
        · exact absurd ⟨written, there, removed⟩ kept

/-- **A plan that was shown survives** unless it is dropped. Take any storage whose calls may fail,
and a plan that loading reads and shows. Afterwards, the document of the plan is in its slot or the
plan still waits, exactly when it is not so that the document could not be written, was not there
before, and the plan was removed all the same. As long as one of them is left, the next session that
can read the slots shows the document again. -/
theorem shown_plan_survives_iff {session : Session σ} {plan xml : String}
    (waits : Storage.held? .pending session.storage = some plan)
    (taken : session.taken? (.plan plan) = some xml) :
    let kept := (load session).2.storage
    let survives := content .diagram kept = some xml ∨ content .pending kept = some plan
    (load session).1 = .ok .ready ∧ (load session).2.canvas.current = some xml ∧
      (survives ↔ ¬ session.Drops xml) ∧
      (survives → ∀ template, (Storage.get .pending kept).1.isOk = true →
        (Storage.get .diagram (Storage.get .pending kept).2).1.isOk = true →
        (load (start session.settings template kept)).1 = .ok .ready ∧
          (load (start session.settings template kept)).2.canvas.current = some xml) := by
  intro kept survives
  obtain ⟨ready, shown⟩ := load_shows_plan waits taken
  refine ⟨ready, shown, left_of_plan_iff waits taken, fun survived template first second => ?_⟩
  refine load_start_of_left taken ?_ first second
  -- A plan that was removed is not what survived, so then the document is.
  have pending : content .pending kept = _ := (content_load_of_plan waits taken).2
  split at pending
  · refine .inr ⟨pending, survived.resolve_right fun left => ?_⟩
    rw [pending] at left
    cases left
  · exact .inl pending

/-- A plan without anything in it. -/
def emptyPlan : String := "\x7b\x7d"

theorem isOk_emptyPlan : (Draft.ofPlan emptyPlan).isOk = true := by decide +kernel

/-- A shelf on which the empty plan waits. -/
def pendingShelf : Shelf := ({} : Shelf).put .pending (some emptyPlan)

/-- The session over that shelf, in which the two calls after the first one fail. -/
def interrupted : Session ScheduledShelf :=
  start {} blankDocument ⟨pendingShelf, fun call => call = 1 || call = 2⟩

/-- Such a session shows the plan and can neither keep its document nor remove it. The next session
shows it again. -/
theorem shown_plan_survives_interrupted :
    ∃ xml, (load interrupted).2.canvas.current = some xml ∧
      content .pending (load interrupted).2.storage = some emptyPlan ∧
      (load (start {} blankDocument (load interrupted).2.storage)).2.canvas.current = some xml := by
  obtain ⟨xml, taken⟩ := exists_taken_start isOk_emptyPlan {} blankDocument interrupted.storage
  have waits : Storage.held? .pending interrupted.storage = some emptyPlan := rfl
  have removal : (Storage.remove .pending (Storage.set .diagram xml
      (Storage.get .pending interrupted.storage).2).2).1.isOk = false := rfl
  have pending := (content_load_of_plan waits taken).2
  rw [removal, if_neg Bool.false_ne_true] at pending
  obtain ⟨_, shown, _, again⟩ := shown_plan_survives_iff waits taken
  have storage := load_storage_of_plan waits taken
  have settings : interrupted.settings = {} := rfl
  have later := again (.inr pending) blankDocument
  rw [settings] at later
  refine ⟨xml, shown, pending, (later ?_ ?_).2⟩
  · rw [storage]
    rfl
  · rw [storage]
    rfl

/-- The session over a shelf on which the empty plan waits, where no document can be written. -/
def unwritable : Session FaultyShelf :=
  start {} blankDocument ⟨pendingShelf, fun call slot => call = .set && slot = .diagram⟩

/-- **A plan that is lost:** it is shown, and afterwards neither it nor its document is left. -/
theorem unwritable_drops_plan :
    Storage.held? .pending unwritable.storage = some emptyPlan ∧
      ∃ xml, unwritable.taken? (.plan emptyPlan) = some xml ∧
        (load unwritable).1 = .ok .ready ∧ (load unwritable).2.canvas.current = some xml ∧
        (load unwritable).2.storage.shelf.content .diagram = none ∧
        (load unwritable).2.storage.shelf.content .pending = none := by
  obtain ⟨xml, taken⟩ := exists_taken_start isOk_emptyPlan {} blankDocument unwritable.storage
  have waits : Storage.held? .pending unwritable.storage = some emptyPlan := rfl
  obtain ⟨ready, shown⟩ := load_shows_plan waits taken
  refine ⟨waits, xml, taken, ready, shown, ?_⟩
  have calls := load_storage_of_plan waits taken
  rw [calls]
  exact ⟨rfl, rfl⟩

end Session

end LaneChart
