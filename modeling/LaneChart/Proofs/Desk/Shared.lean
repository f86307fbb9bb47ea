/-
**A storage that is shared.** An editor loads while plans are staged at the desk. Loading reads the
plan that waits, and removes it in a later call without another look. So a plan that is staged in
between goes with it, although the desk has said that it will be loaded.

* `Moment`, `SharedStorage`: what happens to a storage, and one where plans are staged before each
  call.
* `SharedStorage.Tells`: what has happened explains what waits and what was read.
* `Session.load_calls`: the calls of a session that loads. `SharedStorage.afterLoad_alone`: when
  nobody stages anything, it is loaded as from any other storage.
* `SharedStorage.AccountsFor`, `SharedStorage.Drops`: what becomes of a plan.
* `SharedStorage.staged_plan_is_kept_iff`: there is one way to lose a plan.
-/

import LaneChart.Proofs.Desk.Answers
import LaneChart.Proofs.Session.Abreast
import LaneChart.Proofs.Session.Faults

namespace LaneChart

/-! ### What happens to a storage -/

/-- **What happens to a storage:** a plan is staged and the desk says so, or a session calls. -/
inductive Moment where
  | staged (plan : String)
  | read (slot : Slot) (found : Option String)
  | written (slot : Slot) (text : String)
  | removed (slot : Slot)
deriving DecidableEq, Repr

namespace Moment

/-- The call that a session made. -/
def call? : Moment → Option SlotCall
  | staged _ => none
  | read slot _ => some (.get slot)
  | written slot text => some (.set slot text)
  | removed slot => some (.remove slot)

/-- Whether another plan waits afterwards, or none. -/
def changesPlan : Moment → Bool
  | staged _ => true
  | read _ _ => false
  | written slot _ => slot = .pending
  | removed slot => slot = .pending

/-- The plan that waits afterwards. -/
def waiting (before : Option String) : Moment → Option String
  | staged plan => some plan
  | read _ _ => before
  | written slot text => if slot = .pending then some text else before
  | removed slot => if slot = .pending then none else before

/-- A session reads the plan that waits. -/
def IsHonest (before : Option String) : Moment → Prop
  | read slot found => slot = .pending → found = before
  | _ => True

theorem waiting_of_unchanged {moment : Moment} (unchanged : moment.changesPlan = false)
    (before : Option String) : moment.waiting before = before := by
  cases moment with
  | staged plan => cases unchanged
  | read slot found => rfl
  | written slot text => exact if_neg (of_decide_eq_false unchanged)
  | removed slot => exact if_neg (of_decide_eq_false unchanged)

end Moment

/-- The plan that waits after all this. -/
def waitingAfter (before : Option String) (past : List Moment) : Option String :=
  past.foldl Moment.waiting before

/-- Whatever was read did wait then. -/
def Honest : Option String → List Moment → Prop
  | _, [] => True
  | before, moment :: later => moment.IsHonest before ∧ Honest (moment.waiting before) later

theorem honest_append (before : Option String) (past later : List Moment) :
    Honest before (past ++ later) ↔
      Honest before past ∧ Honest (waitingAfter before past) later := by
  induction past generalizing before with
  | nil => exact ⟨fun honest => ⟨trivial, honest⟩, And.right⟩
  | cons moment past ih =>
    rw [List.cons_append, Honest, Honest, ih, and_assoc]
    rfl

theorem waitingAfter_of_unchanged {past : List Moment}
    (unchanged : ∀ moment ∈ past, moment.changesPlan = false) (before : Option String) :
    waitingAfter before past = before := by
  induction past with
  | nil => rfl
  | cons moment past ih =>
    have first := Moment.waiting_of_unchanged (unchanged moment List.mem_cons_self) before
    rw [waitingAfter, List.foldl_cons, first]
    exact ih fun later member => unchanged later (List.mem_cons_of_mem _ member)

/-! ### The storage -/

/-- **A storage that a desk shares with a session.** Before each call of the session, some plans are
staged. What happens is written down. -/
structure SharedStorage (σ : Type) where
  desk : Desk σ
  /-- the plans that are staged before each of the next calls -/
  visits : List (List String)
  past : List Moment := []

namespace SharedStorage

variable {σ : Type}

section

variable [Storage σ]

/-- A plan is staged at the desk. -/
def stage (shared : SharedStorage σ) (plan : String) : SharedStorage σ :=
  let (answer, desk) := Desk.stagePlan plan shared.desk
  { shared with
    desk := desk
    past := if answer.isFailure then shared.past else shared.past ++ [.staged plan] }

/-- The plans that are staged before the next call. -/
def visit (shared : SharedStorage σ) : SharedStorage σ :=
  (shared.visits.headD []).foldl stage { shared with visits := shared.visits.tail }

/-- All other plans are staged after the last call. -/
def finish (shared : SharedStorage σ) : SharedStorage σ :=
  shared.visits.flatten.foldl stage { shared with visits := [] }

/-- A session calls. -/
def call {α : Type} (run : StateM σ (Except StorageFault α)) (moment : α → Moment) :
    StateM (SharedStorage σ) (Except StorageFault α) := fun shared =>
  let shared := shared.visit
  let (result, storage) := run shared.desk.storage
  (result, { shared with
    desk := { shared.desk with storage := storage }
    past := shared.past ++ (result.toOption.map moment).toList })

end

instance [Storage σ] : Storage (SharedStorage σ) where
  get slot := call (Storage.get slot) (.read slot)
  set slot text := call (Storage.set slot text) fun _ => .written slot text
  remove slot := call (Storage.remove slot) fun _ => .removed slot

open ReliableStorage

variable [ReliableStorage σ]

/-- The plan that waits. -/
def waiting (shared : SharedStorage σ) : Option String := content .pending shared.desk.storage

/-! ### Steps -/

/-- **What has happened explains what waits** and what was read, from what waited at first. -/
structure Tells (start : Option String) (shared : SharedStorage σ) : Prop where
  waits : shared.waiting = waitingAfter start shared.past
  honest : Honest start shared.past

/-- A plan that can be read is staged. -/
theorem stage_of_ofPlan {plan : String} {draft : Draft} (read : Draft.ofPlan plan = .ok draft)
    (shared : SharedStorage σ) :
    shared.stage plan = { shared with
      desk := { shared.desk with storage := (Storage.set .pending plan shared.desk.storage).2 }
      past := shared.past ++ [.staged plan] } := by
  simp only [stage, Desk.stagePlan_run, read]
  rfl

/-- Nothing else is. -/
theorem stage_of_fault {plan : String} {fault : PlanFault}
    (refused : Draft.ofPlan plan = .error fault) (shared : SharedStorage σ) : shared.stage plan = shared := by
  simp only [stage, Desk.stagePlan_run, refused]
  rfl

theorem tells_concat {start : Option String} {shared after : SharedStorage σ}
    (tells : Tells start shared) {moment : Moment}
    (past : after.past = shared.past ++ [moment])
    (waits : after.waiting = moment.waiting shared.waiting)
    (honest : moment.IsHonest shared.waiting) : Tells start after where
  waits := by
    rw [past, waits, waitingAfter, List.foldl_append, tells.waits]
    rfl
  honest := by
    rw [past, honest_append]
    exact ⟨tells.honest, tells.waits ▸ honest, trivial⟩

theorem tells_stage {start : Option String} {shared : SharedStorage σ} (tells : Tells start shared)
    (plan : String) : Tells start (shared.stage plan) := by
  cases read : Draft.ofPlan plan with
  | error fault =>
    rw [stage_of_fault read]
    exact tells
  | ok draft =>
    rw [stage_of_ofPlan read]
    exact tells_concat tells rfl (content_set_self _ _ _) trivial

theorem tells_foldl {start : Option String} {shared : SharedStorage σ} (tells : Tells start shared)
    (plans : List String) : Tells start (plans.foldl stage shared) := by
  induction plans generalizing shared with
  | nil => exact tells
  | cons plan plans ih => exact ih (tells_stage tells plan)

/-- Staging plans only writes down that plans were staged. -/
theorem past_foldl (plans : List String) (shared : SharedStorage σ) :
    ∃ accepted : List String,
      (plans.foldl stage shared).past = shared.past ++ accepted.map .staged := by
  induction plans generalizing shared with
  | nil => exact ⟨[], (List.append_nil _).symm⟩
  | cons plan plans ih =>
    obtain ⟨accepted, past⟩ := ih (shared.stage plan)
    cases read : Draft.ofPlan plan with
    | error fault =>
      rw [stage_of_fault read] at past
      exact ⟨accepted, by rw [List.foldl_cons, stage_of_fault read, past]⟩
    | ok draft =>
      refine ⟨plan :: accepted, ?_⟩
      rw [List.foldl_cons, past, stage_of_ofPlan read]
      simp

theorem tells_visit {start : Option String} {shared : SharedStorage σ}
    (tells : Tells start shared) : Tells start shared.visit := by
  have later : Tells start { shared with visits := shared.visits.tail } :=
    ⟨tells.waits, tells.honest⟩
  exact tells_foldl later _

/-- A call that goes well is written down behind what was staged before it. -/
theorem call_run {α : Type} {run : StateM σ (Except StorageFault α)} {moment : α → Moment}
    {shared : SharedStorage σ} {result : α}
    (done : (run shared.visit.desk.storage).1 = .ok result) :
    call run moment shared = (.ok result, { shared.visit with
      desk := { shared.visit.desk with storage := (run shared.visit.desk.storage).2 }
      past := shared.visit.past ++ [moment result] }) := by
  show ((run shared.visit.desk.storage).1, { shared.visit with
    desk := { shared.visit.desk with storage := (run shared.visit.desk.storage).2 }
    past := shared.visit.past ++
      ((run shared.visit.desk.storage).1.toOption.map moment).toList }) = _
  rw [done]
  rfl

theorem get_run (slot : Slot) (shared : SharedStorage σ) :
    Storage.get slot shared = (.ok (content slot shared.visit.desk.storage), { shared.visit with
      desk := { shared.visit.desk with
        storage := (Storage.get slot shared.visit.desk.storage).2 }
      past := shared.visit.past ++ [.read slot (content slot shared.visit.desk.storage)] }) :=
  call_run (get_result slot _)

theorem set_run (slot : Slot) (text : String) (shared : SharedStorage σ) :
    Storage.set slot text shared = (.ok (), { shared.visit with
      desk := { shared.visit.desk with
        storage := (Storage.set slot text shared.visit.desk.storage).2 }
      past := shared.visit.past ++ [.written slot text] }) :=
  call_run (set_result slot text _)

theorem remove_run (slot : Slot) (shared : SharedStorage σ) :
    Storage.remove slot shared = (.ok (), { shared.visit with
      desk := { shared.visit.desk with
        storage := (Storage.remove slot shared.visit.desk.storage).2 }
      past := shared.visit.past ++ [.removed slot] }) :=
  call_run (remove_result slot _)

/-- **A call** is written down, whatever it is. -/
theorem make_spec (slotCall : SlotCall) (shared : SharedStorage σ) : ∃ moment : Moment,
    moment.call? = some slotCall ∧
      (slotCall.make shared).2.past = shared.visit.past ++ [moment] ∧
      (slotCall.make shared).2.waiting = moment.waiting shared.visit.waiting ∧
      moment.IsHonest shared.visit.waiting := by
  cases slotCall with
  | get slot =>
    refine ⟨.read slot (content slot shared.visit.desk.storage), rfl, ?_, ?_, ?_⟩
    · rw [SlotCall.make, get_run]
    · rw [SlotCall.make, get_run]
      exact content_get _ _ _
    · rintro rfl
      rfl
  | set slot text =>
    refine ⟨.written slot text, rfl, ?_, ?_, trivial⟩
    · rw [SlotCall.make, set_run]
    · rw [SlotCall.make, set_run]
      refine (content_set _ _ _ _).trans ?_
      simp only [eq_comm]
      rfl
  | remove slot =>
    refine ⟨.removed slot, rfl, ?_, ?_, trivial⟩
    · rw [SlotCall.make, remove_run]
    · rw [SlotCall.make, remove_run]
      refine (content_remove _ _ _).trans ?_
      simp only [eq_comm]
      rfl

theorem tells_make {start : Option String} {shared : SharedStorage σ} (tells : Tells start shared)
    (slotCall : SlotCall) : Tells start (slotCall.make shared).2 := by
  obtain ⟨moment, -, past, waits, honest⟩ := make_spec slotCall shared
  exact tells_concat (tells_visit tells) past waits honest

/-! ### Runs -/

theorem tells_makeAll {start : Option String} {shared : SharedStorage σ}
    (tells : Tells start shared) (calls : List SlotCall) :
    Tells start (SlotCall.makeAll shared calls).2 := by
  induction calls generalizing shared with
  | nil => exact tells
  | cons slotCall calls ih => exact ih (tells_make tells slotCall)

theorem calls_staged (plans : List String) :
    (plans.map Moment.staged).filterMap Moment.call? = [] := by
  rw [List.filterMap_map]
  exact List.filterMap_eq_nil_iff.mpr fun _ _ => rfl

/-- **The calls of a run** are written down in order, with plans that were staged in between. -/
theorem past_makeAll (calls : List SlotCall) (shared : SharedStorage σ) : ∃ later,
    (SlotCall.makeAll shared calls).2.past = shared.past ++ later ∧
      later.filterMap Moment.call? = calls := by
  induction calls generalizing shared with
  | nil => exact ⟨[], (List.append_nil _).symm, rfl⟩
  | cons slotCall calls ih =>
    obtain ⟨moment, made, past, -⟩ := make_spec slotCall shared
    obtain ⟨accepted, visited⟩ := past_foldl (shared.visits.headD [])
      { shared with visits := shared.visits.tail }
    obtain ⟨later, more, rest⟩ := ih (slotCall.make shared).2
    refine ⟨accepted.map .staged ++ moment :: later, ?_, ?_⟩
    · refine more.trans ?_
      rw [past, visit, visited]
      simp
    · rw [List.filterMap_append, calls_staged, List.nil_append,
        List.filterMap_cons_some made, rest]

/-- After the last call, plans are staged and nothing else happens. -/
theorem past_finish (shared : SharedStorage σ) : ∃ accepted : List String,
    shared.finish.past = shared.past ++ accepted.map .staged :=
  past_foldl _ { shared with visits := [] }

theorem tells_finish {start : Option String} {shared : SharedStorage σ}
    (tells : Tells start shared) : Tells start shared.finish := by
  have later : Tells start { shared with visits := [] } := ⟨tells.waits, tells.honest⟩
  exact tells_foldl later _

end SharedStorage

/-! ### Loading -/

namespace Session

variable {σ : Type} [Storage σ]

/-- **The calls of a session that loads.** -/
theorem load_calls (session : Session σ) :
    (load session).2.storage = (SlotCall.makeAll session.storage session.loadCalls).2 := by
  have storage : (enter .loading session).2.storage = session.storage := rfl
  have view := (sameView_enter .loading session).trans (sameView_readSlot .pending _)
  simp only [load, run_bind, readSlot_result, storage, loadCalls]
  cases Storage.held? .pending session.storage with
  | some plan =>
    simp only [loadPending_storage, view.taken, readSlot_storage, storage, pendingCalls]
    cases session.taken? (.plan plan) <;> rfl
  | none =>
    have before : (readSlot .pending (enter .loading session).2).2.storage =
        (Storage.get .pending session.storage).2 := readSlot_storage .pending _
    have further := view.trans (sameView_readSlot .diagram _)
    simp only [run_bind, readSlot_result, before]
    cases Storage.held? .diagram (Storage.get .pending session.storage).2 with
    | some xml =>
      simp only [restore_storage, further.taken, readSlot_storage, storage, restoreCalls]
      cases session.taken? (.document xml) <;> rfl
    | none =>
      simp only [(loadTemplate_aside _).1, readSlot_storage, storage]
      rfl

/-- What waits is read once and never written, and it is removed only if there was something. -/
theorem loadCalls_eq (session : Session σ) : ∃ calls, session.loadCalls = .get .pending :: calls ∧
    .get .pending ∉ calls ∧ (∀ text, .set .pending text ∉ calls) ∧
      (.remove .pending ∈ calls → ∃ plan, Storage.held? .pending session.storage = some plan) := by
  refine ⟨_, rfl, ?_⟩
  cases Storage.held? .pending session.storage with
  | some plan =>
    simp only [pendingCalls]
    cases session.taken? (.plan plan) <;> simp
  | none =>
    cases Storage.held? .diagram (Storage.get .pending session.storage).2 with
    | some xml =>
      simp only [restoreCalls]
      cases session.taken? (.document xml) <;> simp
    | none => simp

end Session

namespace SharedStorage

open ReliableStorage

variable {σ : Type} [ReliableStorage σ]

/-- **The storage after a session has loaded,** while plans were staged before, between and after
its calls. -/
def afterLoad (desk : Desk σ) (visits : List (List String)) (session : Session σ) :
    SharedStorage σ :=
  (session.onStorage (⟨desk, visits, []⟩ : SharedStorage σ)).load.2.storage.finish

/-- **When nobody stages anything, the storage is one like any other.** -/
theorem makeAll_alone (calls : List SlotCall) (desk : Desk σ) (past : List Moment) :
    (SlotCall.makeAll (⟨desk, [], past⟩ : SharedStorage σ) calls).2.visits = [] ∧
      (SlotCall.makeAll (⟨desk, [], past⟩ : SharedStorage σ) calls).2.desk.storage =
        (SlotCall.makeAll desk.storage calls).2 := by
  induction calls generalizing desk past with
  | nil => exact ⟨rfl, rfl⟩
  | cons slotCall calls ih =>
    cases slotCall with
    | get slot =>
      have first : Storage.get slot (⟨desk, [], past⟩ : SharedStorage σ) = _ := get_run slot _
      simp only [SlotCall.makeAll, SlotCall.make, first]
      exact ih _ _
    | set slot text =>
      have first : Storage.set slot text (⟨desk, [], past⟩ : SharedStorage σ) = _ :=
        set_run slot text _
      simp only [SlotCall.makeAll, SlotCall.make, first]
      exact ih _ _
    | remove slot =>
      have first : Storage.remove slot (⟨desk, [], past⟩ : SharedStorage σ) = _ := remove_run slot _
      simp only [SlotCall.makeAll, SlotCall.make, first]
      exact ih _ _

/-- Loading leaves it as any other. -/
theorem afterLoad_alone (desk : Desk σ) (session : Session σ) :
    (afterLoad desk [] session).desk.storage = (session.onStorage desk.storage).load.2.storage := by
  let shared : SharedStorage σ := ⟨desk, [], []⟩
  have waits : Storage.held? .pending shared = Storage.held? .pending desk.storage := by
    rw [Storage.held?, get_run, held_eq]
    rfl
  have kept : Storage.held? .diagram (Storage.get .pending shared).2 =
      Storage.held? .diagram (Storage.get .pending desk.storage).2 := by
    rw [held_eq, Storage.held?, get_run, get_run]
    rfl
  have taken : ∀ source, (session.onStorage shared).taken? source =
      (session.onStorage desk.storage).taken? source := fun _ => rfl
  have calls : (session.onStorage shared).loadCalls =
      (session.onStorage desk.storage).loadCalls := by
    have left : (session.onStorage shared).storage = shared := rfl
    have right : (session.onStorage desk.storage).storage = desk.storage := rfl
    simp only [Session.loadCalls, Session.pendingCalls, Session.restoreCalls, left, right, waits,
      kept, taken]
  obtain ⟨nobody, same⟩ := makeAll_alone (session.onStorage shared).loadCalls desk []
  rw [afterLoad, Session.load_calls, Session.load_calls, finish]
  rw [← calls]
  refine Eq.trans ?_ same
  show (List.foldl stage _ (SlotCall.makeAll shared _).2.visits.flatten).desk.storage = _
  rw [nobody]
  rfl

/-! ### What becomes of a plan -/

/-- **A plan that was staged is accounted for:** the session read it, or it waits, or the next
thing that happened was that another one was staged in its place. -/
def AccountsFor (final : SharedStorage σ) (plan : String) (later : List Moment) : Prop :=
  .read .pending (some plan) ∈ final.past ∨ final.waiting = some plan ∨
    ∃ next, later.find? Moment.changesPlan = some (.staged next)

/-- **A plan is dropped:** the session had read another one before, and then removed this one, and
nobody staged it again. -/
structure Drops (final : SharedStorage σ) (plan : String) (earlier later : List Moment) : Prop where
  other : ∃ other, other ≠ plan ∧ .read .pending (some other) ∈ earlier
  removed : later.find? Moment.changesPlan = some (.removed .pending)
  gone : final.waiting ≠ some plan

/-- **What has happened when a session has loaded:** plans were staged, the session read what waited
then, and whatever it did afterwards, it did not read it again, and removed nothing if there was
nothing. -/
theorem past_afterLoad (desk : Desk σ) (visits : List (List String)) (session : Session σ) :
    ∃ (accepted : List String) (found : Option String) (rest : List Moment),
      (afterLoad desk visits session).past =
        accepted.map .staged ++ .read .pending found :: rest ∧
      (∀ again, .read .pending again ∉ rest) ∧ (∀ text, .written .pending text ∉ rest) ∧
      (.removed .pending ∈ rest → ∃ plan, found = some plan) := by
  let shared : SharedStorage σ := ⟨desk, visits, []⟩
  obtain ⟨calls, made, once, unwritten, removed⟩ := Session.loadCalls_eq (session.onStorage shared)
  obtain ⟨accepted, before⟩ := past_foldl (visits.headD []) { shared with visits := visits.tail }
  obtain ⟨between, more, inOrder⟩ := past_makeAll calls (SlotCall.make shared (.get .pending)).2
  obtain ⟨last, after⟩ := past_finish (SlotCall.makeAll shared (.get .pending :: calls)).2
  have found : Storage.held? .pending shared = content .pending shared.visit.desk.storage := by
    rw [Storage.held?, get_run]
    rfl
  have known : ∀ moment ∈ between ++ last.map Moment.staged, ∀ slotCall,
      moment.call? = some slotCall → slotCall ∈ calls := by
    intro moment member slotCall isCall
    rw [← inOrder, ← List.append_nil (between.filterMap _), ← calls_staged last,
      ← List.filterMap_append]
    exact List.mem_filterMap.mpr ⟨moment, member, isCall⟩
  refine ⟨accepted, content .pending shared.visit.desk.storage, between ++ last.map .staged, ?_,
    fun again member => once (known _ member _ rfl),
    fun text member => unwritten text (known _ member _ rfl),
    fun member => found ▸ removed (known _ member _ rfl)⟩
  have first : (SlotCall.make shared (.get .pending)).2.past = accepted.map .staged ++
      [.read .pending (content .pending shared.visit.desk.storage)] := by
    rw [SlotCall.make, get_run]
    exact congrArg (· ++ _) before
  have storage := Session.load_calls (session.onStorage shared)
  rw [made] at storage
  have whole : (afterLoad desk visits session).past =
      (SlotCall.makeAll shared (.get .pending :: calls)).2.past ++ last.map .staged := by
    rw [← after, afterLoad, storage]
    rfl
  have calling : (SlotCall.makeAll shared (.get .pending :: calls)).2.past =
      (SlotCall.make shared (.get .pending)).2.past ++ between := more
  rw [whole, calling, first]
  simp

theorem tells_afterLoad (desk : Desk σ) (visits : List (List String)) (session : Session σ) :
    Tells (content .pending desk.storage) (afterLoad desk visits session) := by
  have start : Tells (content .pending desk.storage) (⟨desk, visits, []⟩ : SharedStorage σ) :=
    ⟨rfl, trivial⟩
  rw [afterLoad, Session.load_calls]
  exact tells_finish (tells_makeAll start _)

/-- A plan that was staged stands in front of what was read, or behind it. -/
theorem staged_cases {accepted : List Moment} {plan : String} {found : Option String}
    {earlier later rest : List Moment}
    (split : accepted ++ .read .pending found :: rest = earlier ++ .staged plan :: later) :
    (∃ more, accepted = earlier ++ .staged plan :: more ∧
        later = more ++ .read .pending found :: rest) ∨
      ∃ between, earlier = accepted ++ .read .pending found :: between ∧
        rest = between ++ .staged plan :: later := by
  rcases List.append_eq_append_iff.mp split with ⟨more, rfl, tail⟩ | ⟨more, rfl, tail⟩
  · rcases List.cons_eq_append_iff.mp tail with ⟨rfl, same⟩ | ⟨between, rfl, same⟩
    · cases same
    · exact .inr ⟨between, rfl, same⟩
  · rcases List.cons_eq_append_iff.mp tail with ⟨rfl, same⟩ | ⟨between, rfl, same⟩
    · cases same
    · exact .inl ⟨between, rfl, same⟩

/-- A plan that was staged before the session read is what it read, or another one was staged before
that as well. -/
theorem accountsFor_before {start : Option String} {final : SharedStorage σ}
    (honest : Honest start final.past) {plan : String} {found : Option String}
    {earlier more rest : List Moment} (isStaged : ∀ moment ∈ more, ∃ other, moment = .staged other)
    (split : final.past = earlier ++ .staged plan :: (more ++ .read .pending found :: rest)) :
    final.AccountsFor plan (more ++ .read .pending found :: rest) := by
  cases more with
  | nil =>
    rw [split, honest_append] at honest
    obtain ⟨-, -, read, -⟩ := honest
    refine .inl ?_
    rw [split, read rfl]
    simp [Moment.waiting]
  | cons next more =>
    obtain ⟨other, rfl⟩ := isStaged next List.mem_cons_self
    exact .inr (.inr ⟨other, rfl⟩)

/-- **There is one way to lose a plan.** Take any storage that never fails, any session that loads
over it, and any plans that are staged at the desk before, between and after its calls. A plan that
the desk has accepted was read by the session, still waits, or was replaced by another one, unless
the session had read another plan before and removed this one after. -/
theorem staged_plan_is_kept_iff (desk : Desk σ) (visits : List (List String))
    (session : Session σ) :
    let final := afterLoad desk visits session
    ∀ earlier plan later, final.past = earlier ++ .staged plan :: later →
      (final.AccountsFor plan later ↔ ¬ final.Drops plan earlier later) := by
  intro final earlier plan later split
  obtain ⟨waits, honest⟩ : Tells (content .pending desk.storage) final :=
    tells_afterLoad desk visits session
  obtain ⟨accepted, found, rest, past, once, unwritten, removed⟩ :=
    past_afterLoad desk visits session
  have readThen : .read .pending found ∈ final.past := by
    rw [past]
    exact List.mem_append_right _ List.mem_cons_self
  have onlyRead : ∀ again, .read .pending again ∈ final.past → again = found := by
    intro again member
    rw [past, List.mem_append, List.mem_cons] at member
    rcases member with member | same | member
    · obtain ⟨_, _, ⟨⟩⟩ := List.mem_map.mp member
    · cases same
      rfl
    · exact absurd member (once again)
  constructor
  · rintro (read | waiting | ⟨next, replaced⟩) ⟨⟨other, different, readOther⟩, isRemoved, gone⟩
    · have member : .read .pending (some other) ∈ final.past := by
        rw [split]
        exact List.mem_append_left _ readOther
      exact different (Option.some.inj ((onlyRead _ member).trans (onlyRead _ read).symm))
    · exact gone waiting
    · cases isRemoved.symm.trans replaced
  intro kept
  cases change : later.find? Moment.changesPlan with
  | none =>
    have unchanged : ∀ moment ∈ later, moment.changesPlan = false := fun moment member =>
      Bool.eq_false_iff.mpr (List.find?_eq_none.mp change moment member)
    refine .inr (.inl ?_)
    rw [waits, split, waitingAfter, List.foldl_append]
    exact waitingAfter_of_unchanged unchanged (some plan)
  | some moment =>
    have changes := List.find?_some change
    have member := List.mem_of_find?_eq_some change
    rcases staged_cases (past.symm.trans split) with ⟨more, front, rfl⟩ | ⟨between, front, tail⟩
    · refine accountsFor_before honest (fun moment member => ?_) split
      have isStaged : moment ∈ accepted.map Moment.staged := by
        rw [front]
        exact List.mem_append_right _ (List.mem_cons_of_mem _ member)
      obtain ⟨other, -, rfl⟩ := List.mem_map.mp isStaged
      exact ⟨other, rfl⟩
    have inRest : moment ∈ rest := by
      rw [tail]
      exact List.mem_append_right _ (List.mem_cons_of_mem _ member)
    cases moment with
    | staged next => exact .inr (.inr ⟨next, change⟩)
    | read slot found => cases changes
    | written slot text =>
      obtain rfl : slot = .pending := of_decide_eq_true changes
      exact absurd inRest (unwritten text)
    | removed slot =>
      obtain rfl : slot = .pending := of_decide_eq_true changes
      obtain ⟨other, rfl⟩ := removed inRest
      have readBefore : .read .pending (some other) ∈ earlier := by
        rw [front]
        exact List.mem_append_right _ List.mem_cons_self
      by_cases same : other = plan
      · exact .inl (same ▸ readThen)
      by_cases waiting : final.waiting = some plan
      · exact .inr (.inl waiting)
      exact absurd ⟨⟨other, same, readBefore⟩, change, waiting⟩ kept

/-! ### A plan that is staged late -/

/-- A plan that is staged while another one is loaded. -/
def latePlan : String := "\x7b\"id\":\"late\"\x7d"

theorem exists_draft_latePlan : ∃ draft, Draft.ofPlan latePlan = .ok draft := by
  have readable : (Draft.ofPlan latePlan).isOk = true := by decide +kernel
  cases read : Draft.ofPlan latePlan with
  | error fault =>
    rw [read] at readable
    cases readable
  | ok draft => exact ⟨draft, rfl⟩

/-- The desk over a shelf on which the empty plan waits. -/
def lateDesk : Desk Shelf := ⟨{}, Session.pendingShelf⟩

/-- A session that is about to load. -/
def lateSession : Session Shelf := .start {} blankDocument Session.pendingShelf

/-- Plans are staged behind the first call only. -/
def lateStorage (visits : List (List String)) : SharedStorage Shelf := ⟨lateDesk, [] :: visits, []⟩

/-- The session reads the empty plan, writes its document and removes a plan. -/
theorem afterLoad_late (visits : List (List String)) : ∃ xml,
    afterLoad lateDesk ([] :: visits) lateSession = (Storage.remove .pending
      (Storage.set .diagram xml
        (Storage.get .pending (lateStorage visits)).2).2).2.finish := by
  obtain ⟨xml, taken⟩ :=
    Session.exists_taken_start Session.isOk_emptyPlan {} blankDocument (lateStorage visits)
  have waits : Storage.held? .pending (lateStorage visits) = some Session.emptyPlan := by
    rw [Storage.held?, get_run]
    rfl
  have calls := Session.load_storage_of_plan waits taken
  have session : lateSession.onStorage (lateStorage visits) =
      .start {} blankDocument (lateStorage visits) := rfl
  have storage : (lateSession.onStorage (lateStorage visits)).storage = lateStorage visits := rfl
  rw [← session, storage] at calls
  refine ⟨xml, ?_⟩
  rw [afterLoad, ← lateStorage, calls]

/-- The plan is staged after the session has read another one, and before it removes what waits. -/
def betweenCalls : SharedStorage Shelf := afterLoad lateDesk [[], [latePlan]] lateSession

/-- The plan is staged after all calls. -/
def behindCalls : SharedStorage Shelf := afterLoad lateDesk [[], [], [], [latePlan]] lateSession

theorem betweenCalls_eq : ∃ xml,
    betweenCalls.past = [.read .pending (some Session.emptyPlan), .staged latePlan,
      .written .diagram xml, .removed .pending] ∧ betweenCalls.waiting = none := by
  obtain ⟨draft, read⟩ := exists_draft_latePlan
  obtain ⟨xml, after⟩ := afterLoad_late [[latePlan]]
  rw [get_run, set_run, remove_run] at after
  simp only [visit, finish, lateStorage, List.headD, List.tail, List.foldl, stage_of_ofPlan read,
    List.flatten] at after
  rw [betweenCalls, after]
  exact ⟨xml, rfl, rfl⟩

theorem behindCalls_past : ∃ xml,
    behindCalls.past = [.read .pending (some Session.emptyPlan), .written .diagram xml,
      .removed .pending] ++ .staged latePlan :: [] := by
  obtain ⟨draft, read⟩ := exists_draft_latePlan
  obtain ⟨xml, after⟩ := afterLoad_late [[], [], [latePlan]]
  rw [get_run, set_run, remove_run] at after
  simp only [visit, finish, lateStorage, List.headD, List.tail, List.flatten_cons, List.flatten_nil,
    List.append_nil, List.foldl, stage_of_ofPlan read] at after
  rw [behindCalls, after]
  exact ⟨xml, rfl⟩

/-- **A plan that is lost:** the session did not read it, it does not wait, and it was not replaced
by another one. -/
theorem latePlan_is_lost : ∃ earlier later,
    betweenCalls.past = earlier ++ .staged latePlan :: later ∧
      ¬ betweenCalls.AccountsFor latePlan later := by
  obtain ⟨xml, past, waiting⟩ := betweenCalls_eq
  refine ⟨[.read .pending (some Session.emptyPlan)], _, past, ?_⟩
  have different : latePlan ≠ Session.emptyPlan := by simp [latePlan, Session.emptyPlan]
  rintro (read | waits | ⟨next, replaced⟩)
  · rw [past] at read
    simp [different] at read
  · cases waiting.symm.trans waits
  · cases replaced

/-- The same plan, staged behind all calls, waits. -/
theorem staged_plan_is_kept_iff_afterwards : ∃ earlier,
    behindCalls.past = earlier ++ .staged latePlan :: [] ∧
      behindCalls.AccountsFor latePlan [] := by
  obtain ⟨xml, past⟩ := behindCalls_past
  refine ⟨_, past, ?_⟩
  have kept := staged_plan_is_kept_iff lateDesk [[], [], [], [latePlan]] lateSession
  rw [← behindCalls] at kept
  exact (kept _ latePlan [] past).mpr fun dropped => nomatch dropped.removed

end SharedStorage

end LaneChart
