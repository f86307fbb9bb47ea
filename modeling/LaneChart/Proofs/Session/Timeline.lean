/-
**The notice board follows its timeline.** What is up at any moment can be said without timers: the
notices that were put up, less those that were dismissed since and those whose time is over. A
timer only knows the id that it takes down, and it fires whether the notice is still there or not.
No other notice ever has that id, so it takes down the right one or none.

* `BoardStep`, `NoticeBoard.step`: what can happen to a notice board.
* `Posting`: a notice that was put up, when that was, and what happened since; `postings`: all that
  a row of steps puts up.
* `NoticeBoard.Follows`: the notices and the timers of a board are those of its postings.
* `NoticeBoard.follows_step`, `NoticeBoard.follows_run`: it stays so in every step.
* `NoticeBoard.foldl_fire_perm`: the order in which timers fire does not matter.
* `NoticeBoard.follows_timeline`: the notices, the ids and the answers of any run.
-/

import LaneChart.Session.NoticeBoard
import Mathlib

namespace LaneChart

/-! ### The timeline -/

/-- **What can happen to a notice board.** -/
inductive BoardStep where
  | push (kind : NoticeKind) (message : String) (duration : Nat)
  | dismiss (id : String)
  | pass (duration : Nat)
deriving DecidableEq, Repr

/-- How much time a step takes. -/
def BoardStep.span : BoardStep → Nat
  | pass duration => duration
  | _ => 0

/-- What the clock shows after a row of steps. -/
def clockAfter (steps : List BoardStep) : Nat := (steps.map BoardStep.span).sum

/-- **A notice that was put up:** its number, when that was, and what happened since. -/
structure Posting where
  number : Nat
  time : Nat
  kind : NoticeKind
  message : String
  duration : Nat
  later : List BoardStep
deriving DecidableEq, Repr

namespace Posting

/-- The id of the notice. -/
def id (posting : Posting) : String := NoticeBoard.idOf posting.number

/-- The notice itself. -/
def notice (posting : Posting) : Notice :=
  ⟨posting.id, posting.message, posting.kind, .ofNat (posting.duration / NoticeBoard.millisecond)⟩

/-- Whether the notice was dismissed after it was put up. -/
def Dismissed (posting : Posting) : Prop := .dismiss posting.id ∈ posting.later

/-- Whether the time of the notice is over. One of duration zero stays, and without a clock every
one does. -/
def Expired (timed : Bool) (now : Nat) (posting : Posting) : Prop :=
  timed = true ∧ posting.duration ≠ 0 ∧ posting.time + posting.duration ≤ now

/-- Whether the notice is up. -/
def IsUp (timed : Bool) (now : Nat) (posting : Posting) : Prop :=
  ¬ posting.Dismissed ∧ ¬ posting.Expired timed now

/-- The timer that is started for the notice. -/
def timer (posting : Posting) : NoticeTimer := ⟨posting.time + posting.duration, posting.id⟩

/-- Whether that timer was started and is still to fire. -/
def Ticks (timed : Bool) (now : Nat) (posting : Posting) : Prop :=
  timed = true ∧ posting.duration ≠ 0 ∧ now < posting.time + posting.duration

instance (posting : Posting) : Decidable posting.Dismissed :=
  inferInstanceAs (Decidable (_ ∈ posting.later))

instance (timed : Bool) (now : Nat) (posting : Posting) : Decidable (posting.Expired timed now) :=
  inferInstanceAs (Decidable (_ ∧ _))

instance (timed : Bool) (now : Nat) (posting : Posting) : Decidable (posting.IsUp timed now) :=
  inferInstanceAs (Decidable (_ ∧ _))

instance (timed : Bool) (now : Nat) (posting : Posting) : Decidable (posting.Ticks timed now) :=
  inferInstanceAs (Decidable (_ ∧ _))

end Posting

/-- The postings of a row of steps that comes after so many notices and so much time. -/
def postingsFrom : Nat → Nat → List BoardStep → List Posting
  | _, _, [] => []
  | issued, now, .push kind message duration :: later =>
    ⟨issued + 1, now, kind, message, duration, later⟩ :: postingsFrom (issued + 1) now later
  | issued, now, .dismiss _ :: later => postingsFrom issued now later
  | issued, now, .pass duration :: later => postingsFrom issued (now + duration) later

/-- **All notices that a row of steps puts up,** first one first. -/
def postings (steps : List BoardStep) : List Posting := postingsFrom 0 0 steps

/-- The posting after one more step. -/
def Posting.after (step : BoardStep) (posting : Posting) : Posting :=
  { posting with later := posting.later ++ [step] }

namespace Posting

theorem isUp_after (timed : Bool) (now : Nat) (step : BoardStep) (posting : Posting) :
    (posting.after step).IsUp timed now ↔
      posting.IsUp timed now ∧ step ≠ .dismiss posting.id := by
  have dismissed : (posting.after step).Dismissed ↔
      posting.Dismissed ∨ step = .dismiss posting.id := by
    rw [Dismissed, after, List.mem_append, List.mem_singleton, eq_comm]
    rfl
  rw [IsUp, dismissed, not_or, and_right_comm]
  rfl

theorem up_map_after (timed : Bool) (now : Nat) (step : BoardStep) (row : List Posting) :
    ((row.map (after step)).filter (·.IsUp timed now)).map notice =
      (row.filter fun posting => posting.IsUp timed now ∧ step ≠ .dismiss posting.id).map
        notice := by
  rw [List.filter_map, List.map_map]
  simp only [Function.comp_def, isUp_after]
  rfl

theorem ticking_map_after (timed : Bool) (now : Nat) (step : BoardStep) (row : List Posting) :
    ((row.map (after step)).filter (·.Ticks timed now)).map timer =
      (row.filter (·.Ticks timed now)).map timer := by
  rw [List.filter_map, List.map_map]
  rfl

/-- A notice is up when it has just been put up. -/
theorem isUp_new {posting : Posting} {now : Nat} (last : posting.later = [])
    (here : posting.time = now) {timed : Bool} : posting.IsUp timed now := by
  constructor
  · rw [Dismissed, last]
    exact List.not_mem_nil
  · rintro ⟨_, some, done⟩
    omega

theorem ticks_new {posting : Posting} {now : Nat} (here : posting.time = now) {timed : Bool} :
    posting.Ticks timed now ↔ timed = true ∧ posting.duration ≠ 0 := by
  refine and_congr_right fun _ => and_iff_left_of_imp fun some => ?_
  omega

/-- As time goes on, a notice is up until its timer is due. -/
theorem isUp_add {posting : Posting} {timed : Bool} {now duration : Nat} :
    posting.IsUp timed (now + duration) ↔ posting.IsUp timed now ∧
      ¬ (posting.Ticks timed now ∧ posting.timer.due ≤ now + duration) := by
  unfold IsUp Expired Ticks timer
  rw [and_assoc]
  refine and_congr_right fun _ => ?_
  cases timed with
  | false => simp
  | true =>
    simp only [true_and]
    omega

theorem ticks_add {posting : Posting} {timed : Bool} {now duration : Nat} :
    posting.Ticks timed (now + duration) ↔
      now + duration < posting.timer.due ∧ posting.Ticks timed now := by
  unfold Ticks timer
  cases timed with
  | false => simp
  | true =>
    simp only [true_and]
    omega

end Posting

/-- What one more step puts up. -/
theorem postingsFrom_concat (issued now : Nat) (steps : List BoardStep) (step : BoardStep) :
    postingsFrom issued now (steps ++ [step]) =
      (postingsFrom issued now steps).map (Posting.after step) ++
        postingsFrom (issued + (postingsFrom issued now steps).length) (now + clockAfter steps)
          [step] := by
  induction steps generalizing issued now with
  | nil => rfl
  | cons first rest ih =>
    cases first with
    | push kind message duration =>
      have clock : clockAfter (.push kind message duration :: rest) = clockAfter rest :=
        Nat.zero_add _
      simp only [List.cons_append, postingsFrom, ih, List.map_cons, List.length_cons, clock,
        Posting.after]
      rw [Nat.add_right_comm issued 1, Nat.add_assoc issued]
    | dismiss id =>
      have clock : clockAfter (.dismiss id :: rest) = clockAfter rest := Nat.zero_add _
      simp only [List.cons_append, postingsFrom, ih, clock]
    | pass duration =>
      have clock : clockAfter (.pass duration :: rest) = duration + clockAfter rest := rfl
      simp only [List.cons_append, postingsFrom, ih, clock, Nat.add_assoc]

theorem postings_concat (steps : List BoardStep) (step : BoardStep) :
    postings (steps ++ [step]) = (postings steps).map (Posting.after step) ++
      postingsFrom (postings steps).length (clockAfter steps) [step] := by
  rw [postings, postingsFrom_concat, Nat.zero_add, Nat.zero_add]
  rfl

theorem clockAfter_concat (steps : List BoardStep) (step : BoardStep) :
    clockAfter (steps ++ [step]) = clockAfter steps + step.span := by
  simp [clockAfter]

/-- Notices are numbered from one on. -/
theorem numbers_postingsFrom (issued now : Nat) (steps : List BoardStep) :
    (postingsFrom issued now steps).map Posting.number =
      List.range' (issued + 1) (postingsFrom issued now steps).length := by
  induction steps generalizing issued now with
  | nil => rfl
  | cons first rest ih =>
    cases first with
    | push kind message duration =>
      rw [postingsFrom, List.map_cons, ih, List.length_cons, List.range'_succ]
    | dismiss id => exact ih _ _
    | pass duration => exact ih _ _

namespace NoticeBoard

/-! ### Ids -/

/-- No id is given twice. -/
theorem idOf_inj {number other : Nat} : idOf number = idOf other ↔ number = other := by
  constructor
  · intro same
    have digits : "note-" ++ number.repr = "note-" ++ other.repr := same
    exact Nat.repr_inj.mp ((String.append_right_inj _).mp digits)
  · exact congrArg idOf

/-- The ids of the notices that a row of steps puts up. -/
theorem ids_postings (steps : List BoardStep) :
    (postings steps).map Posting.id = (List.range' 1 (postings steps).length).map idOf := by
  have numbers : (postings steps).map Posting.number = List.range' 1 (postings steps).length :=
    numbers_postingsFrom 0 0 steps
  rw [← numbers, List.map_map]
  rfl

theorem nodup_ids_postings (steps : List BoardStep) : ((postings steps).map Posting.id).Nodup := by
  rw [ids_postings]
  exact (List.nodup_range' 1).map fun _ _ same => idOf_inj.mp same

/-- A notice is known by its id. -/
theorem posting_eq_of_id {steps : List BoardStep} {posting other : Posting}
    (member : posting ∈ postings steps) (known : other ∈ postings steps)
    (same : posting.id = other.id) : posting = other :=
  List.inj_on_of_nodup_map (nodup_ids_postings steps) member known same

/-! ### Steps -/

/-- The board after a step. -/
def step (board : NoticeBoard) : BoardStep → NoticeBoard
  | .push kind message duration => (board.pushFor kind message duration).2
  | .dismiss id => (board.dismiss id).2
  | .pass duration => board.pass duration

/-- A dismissal takes down what has the id, and says whether there was anything. -/
theorem dismiss_fst (id : String) (board : NoticeBoard) :
    (board.dismiss id).1 = true ↔ ∃ notice ∈ board.notices, notice.id = id := by
  have kept := List.length_filter_eq_length_iff (p := fun notice : Notice => notice.id ≠ id)
    (l := board.posted)
  simp only [dismiss, notices, ne_eq, decide_eq_true_eq] at kept ⊢
  rw [kept]
  push Not
  rfl

theorem dismiss_snd_of_not {id : String} {board : NoticeBoard}
    (absent : (board.dismiss id).1 = false) : (board.dismiss id).2 = board := by
  have nobody : ∀ notice ∈ board.posted, decide (notice.id ≠ id) = true := by
    intro notice member
    refine decide_eq_true fun same => ?_
    rw [(dismiss_fst id board).mpr ⟨notice, member, same⟩] at absent
    cases absent
  rw [dismiss, List.filter_eq_self.mpr nobody]

/-- What is left when timers have fired. -/
theorem foldl_fire_eq (due : List NoticeTimer) (board : NoticeBoard) :
    due.foldl fire board =
      { board with posted := board.posted.filter fun notice => due.all (notice.id ≠ ·.id) } := by
  induction due generalizing board with
  | nil => simp
  | cons timer due ih =>
    rw [List.foldl_cons, ih]
    simp only [fire, dismiss, List.filter_filter, List.all_cons, Bool.and_comm]

/-- **The order in which timers fire does not matter.** -/
theorem foldl_fire_perm {due other : List NoticeTimer} (same : due.Perm other)
    (board : NoticeBoard) : due.foldl fire board = other.foldl fire board := by
  have left : ∀ notice : Notice, (due.all fun timer => decide (notice.id ≠ timer.id)) =
      other.all fun timer => decide (notice.id ≠ timer.id) :=
    fun notice => same.all_eq
  rw [foldl_fire_eq, foldl_fire_eq]
  simp only [left]

/-! ### Runs -/

/-- **A board follows a row of steps:** its notices and its timers are those of the postings. -/
structure Follows (timed : Bool) (steps : List BoardStep) (board : NoticeBoard) : Prop where
  clocked : board.timed = timed
  now : board.now = clockAfter steps
  issued : board.issued = (postings steps).length
  posted : board.posted =
    ((postings steps).filter (·.IsUp timed (clockAfter steps))).map Posting.notice
  timers : board.timers =
    ((postings steps).filter (·.Ticks timed (clockAfter steps))).map Posting.timer

variable {timed : Bool} {steps : List BoardStep} {board : NoticeBoard}

theorem follows_push (follows : Follows timed steps board) (kind : NoticeKind) (message : String)
    (duration : Nat) :
    Follows timed (steps ++ [.push kind message duration])
      (board.step (.push kind message duration)) := by
  let added : Posting :=
    ⟨(postings steps).length + 1, clockAfter steps, kind, message, duration, []⟩
  have clock : clockAfter (steps ++ [.push kind message duration]) = clockAfter steps :=
    clockAfter_concat steps _
  have put : postings (steps ++ [.push kind message duration]) =
      (postings steps).map (Posting.after (.push kind message duration)) ++ [added] :=
    postings_concat steps _
  have named : idOf (board.issued + 1) = added.id := congrArg (idOf <| · + 1) follows.issued
  constructor
  · exact follows.clocked
  · exact follows.now.trans clock.symm
  · rw [put, List.length_append, List.length_map]
    exact congrArg (· + 1) follows.issued
  · have up : [added].filter (·.IsUp timed (clockAfter steps)) = [added] :=
      List.filter_cons_of_pos (decide_eq_true (Posting.isUp_new rfl rfl))
    rw [clock, put, List.filter_append, List.map_append, Posting.up_map_after, up]
    simp only [ne_eq, reduceCtorEq, not_false_eq_true, and_true, ← follows.posted]
    simp only [step, pushFor, named]
    rfl
  · have starts : decide (added.Ticks timed (clockAfter steps)) = (timed && duration ≠ 0) := by
      have new : added.Ticks timed (clockAfter steps) ↔ timed = true ∧ added.duration ≠ 0 :=
        Posting.ticks_new rfl
      rw [decide_eq_decide.mpr new, Bool.decide_and, Bool.decide_eq_true]
    rw [clock, put, List.filter_append, List.map_append, Posting.ticking_map_after,
      ← follows.timers, List.filter_singleton, starts]
    simp only [step, pushFor, named, follows.clocked, follows.now]
    cases timed && decide (duration ≠ 0) with
    | true => rfl
    | false => exact (List.append_nil _).symm

theorem follows_dismiss (follows : Follows timed steps board) (id : String) :
    Follows timed (steps ++ [.dismiss id]) (board.step (.dismiss id)) := by
  have clock : clockAfter (steps ++ [.dismiss id]) = clockAfter steps := clockAfter_concat steps _
  have put : postings (steps ++ [.dismiss id]) =
      (postings steps).map (Posting.after (.dismiss id)) :=
    (postings_concat steps _).trans (List.append_nil _)
  constructor
  · exact follows.clocked
  · exact follows.now.trans clock.symm
  · rw [put, List.length_map]
    exact follows.issued
  · rw [clock, put, Posting.up_map_after]
    calc board.posted.filter (·.id ≠ id)
        = (((postings steps).filter (·.IsUp timed (clockAfter steps))).filter
            (·.id ≠ id)).map Posting.notice := by
          rw [follows.posted, List.filter_map]
          rfl
      _ = _ := by
          rw [List.filter_filter]
          congr 1
          refine List.filter_congr fun posting _ => ?_
          simp [Bool.and_comm, eq_comm]
  · rw [clock, put, Posting.ticking_map_after]
    exact follows.timers

/-- No timer that is due takes a notice down exactly when its own timer is not due. -/
theorem Follows.no_timer_iff (follows : Follows timed steps board) {duration : Nat}
    {posting : Posting} (member : posting ∈ postings steps) :
    (board.timers.filter (·.due ≤ board.now + duration)).all (posting.id ≠ ·.id) = true ↔
      ¬ (posting.Ticks timed (clockAfter steps) ∧
        posting.timer.due ≤ clockAfter steps + duration) := by
  rw [follows.timers, follows.now]
  simp only [List.all_eq_true, List.mem_filter, List.mem_map, decide_eq_true_eq]
  constructor
  · rintro nobody ⟨ticks, due⟩
    exact nobody posting.timer ⟨⟨posting, ⟨member, ticks⟩, rfl⟩, due⟩ rfl
  · rintro quiet _ ⟨⟨other, ⟨known, ticks⟩, rfl⟩, due⟩ same
    -- The timer of another notice has another id.
    obtain rfl : posting = other := posting_eq_of_id member known same
    exact quiet ⟨ticks, due⟩

theorem follows_pass (follows : Follows timed steps board) (duration : Nat) :
    Follows timed (steps ++ [.pass duration]) (board.step (.pass duration)) := by
  have clock : clockAfter (steps ++ [.pass duration]) = clockAfter steps + duration :=
    clockAfter_concat steps _
  have put : postings (steps ++ [.pass duration]) =
      (postings steps).map (Posting.after (.pass duration)) :=
    (postings_concat steps _).trans (List.append_nil _)
  have passed : board.step (.pass duration) = _ := foldl_fire_eq _ _
  constructor
  · rw [passed]
    exact follows.clocked
  · rw [passed, clock, ← follows.now]
  · rw [passed, put, List.length_map]
    exact follows.issued
  · rw [passed, clock, put, Posting.up_map_after]
    calc board.posted.filter (fun notice =>
          (board.timers.filter (·.due ≤ board.now + duration)).all (notice.id ≠ ·.id))
        = ((postings steps).filter fun posting => (board.timers.filter
            (·.due ≤ board.now + duration)).all (posting.id ≠ ·.id) &&
            posting.IsUp timed (clockAfter steps)).map Posting.notice := by
          rw [follows.posted, List.filter_map, List.filter_filter]
          rfl
      _ = _ := by
          congr 1
          refine List.filter_congr fun posting member => ?_
          rw [Bool.eq_iff_iff, Bool.and_eq_true, follows.no_timer_iff member, decide_eq_true_eq,
            decide_eq_true_eq, Posting.isUp_add]
          simp [and_comm]
  · rw [passed, clock, put, Posting.ticking_map_after]
    calc board.timers.filter (board.now + duration < ·.due)
        = ((postings steps).filter fun posting => clockAfter steps + duration < posting.timer.due &&
            posting.Ticks timed (clockAfter steps)).map Posting.timer := by
          rw [follows.timers, follows.now, List.filter_map, List.filter_filter]
          rfl
      _ = _ := by
          congr 1
          refine List.filter_congr fun posting _ => ?_
          rw [← Bool.decide_and, decide_eq_decide]
          exact Posting.ticks_add.symm

/-- **A board follows whatever happens to it.** -/
theorem follows_step (follows : Follows timed steps board) (next : BoardStep) :
    Follows timed (steps ++ [next]) (board.step next) := by
  cases next with
  | push kind message duration => exact follows_push follows kind message duration
  | dismiss id => exact follows_dismiss follows id
  | pass duration => exact follows_pass follows duration

/-- **A board that was empty at the start follows its whole run.** -/
theorem follows_run (defaultMs : UInt64) (timed : Bool) (steps : List BoardStep) :
    Follows timed steps (steps.foldl step { defaultMs, timed }) := by
  induction steps using List.reverseRecOn with
  | nil => exact ⟨rfl, rfl, rfl, rfl, rfl⟩
  | append_singleton steps next ih =>
    rw [List.foldl_append]
    exact follows_step ih next

/-- **The notice board follows its timeline.** After any row of steps, the notices that are up are
those that were put up, were not dismissed since, and are not expired, oldest first; without a clock
none expires. The next notice gets the next number, and no id was given twice. A dismissal says
whether a notice with the id is up, and changes nothing when there is none. -/
theorem follows_timeline (defaultMs : UInt64) (timed : Bool) (steps : List BoardStep) :
    let board := steps.foldl step { defaultMs, timed }
    board.notices =
        ((postings steps).filter (·.IsUp timed (clockAfter steps))).map Posting.notice ∧
      (postings steps).map Posting.id =
        (List.range' 1 (postings steps).length).map (fun number => s!"note-{number}") ∧
      ((postings steps).map Posting.id).Nodup ∧
      (∀ kind message duration, (board.pushFor kind message duration).1 =
        s!"note-{(postings steps).length + 1}") ∧
      ∀ id, ((board.dismiss id).1 = true ↔ ∃ notice ∈ board.notices, notice.id = id) ∧
        ((board.dismiss id).1 = false → (board.dismiss id).2 = board) := by
  intro board
  have follows := follows_run defaultMs timed steps
  refine ⟨follows.posted, ids_postings steps, nodup_ids_postings steps, ?_, fun id => ?_⟩
  · intro kind message duration
    exact congrArg (idOf <| · + 1) follows.issued
  · exact ⟨dismiss_fst id board, dismiss_snd_of_not⟩

end NoticeBoard

end LaneChart
