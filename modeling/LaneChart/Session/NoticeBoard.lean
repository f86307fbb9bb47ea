/-
**The notice board.** Notices tell a user what happened. Each has a number that is never given
again, and most of them go away by themselves after a while.

* `Notice`, `NoticeKind`: a notice.
* `NoticeBoard`: the notices that are up, the timers that run, the clock, and how many notices were
  ever put up.
* `NoticeBoard.pushFor`, `NoticeBoard.dismiss`, `NoticeBoard.pass`: putting one up, taking one down,
  and letting time pass. A notice with a duration starts a timer, which takes down whatever has its
  id when it is due; a notice of duration zero starts none, and on a board without a clock no notice
  does. `NoticeBoard.push` and `NoticeBoard.advance` count in milliseconds.
-/

namespace LaneChart

/-- How a notice is meant. -/
inductive NoticeKind where
  | success
  | error
  | warning
deriving DecidableEq, Repr

namespace NoticeKind

/-- Every kind with its name. -/
def named : List (String × NoticeKind) :=
  [("success", .success), ("error", .error), ("warning", .warning)]

/-- The name of a kind. -/
def name : NoticeKind → String
  | success => "success"
  | error => "error"
  | warning => "warning"

end NoticeKind

/-- **A notice.** -/
structure Notice where
  id : String
  message : String
  kind : NoticeKind
  /-- how many milliseconds it stays; zero means until it is dismissed -/
  durationMs : UInt64
deriving DecidableEq, Repr

/-- A timer that takes a notice down. -/
structure NoticeTimer where
  due : Nat
  id : String
deriving DecidableEq, Repr

/-- **The notice board.** Times and durations are in nanoseconds. -/
structure NoticeBoard where
  /-- how many milliseconds notices stay that nothing else is said about -/
  defaultMs : UInt64 := 5000
  /-- whether there is a clock that makes timers fire -/
  timed : Bool := true
  now : Nat := 0
  /-- how many notices were ever put up -/
  issued : Nat := 0
  /-- the notices that are up, oldest first -/
  posted : List Notice := []
  /-- the timers that are still to fire, oldest first -/
  timers : List NoticeTimer := []
deriving DecidableEq, Repr

namespace NoticeBoard

/-- The nanoseconds of a millisecond. -/
def millisecond : Nat := 1000000

/-- The id of the notice with a number. -/
def idOf (number : Nat) : String := s!"note-{number}"

/-- **Puts up a notice** for a duration, and gives back its id. The notice itself says how many
milliseconds that are. -/
def pushFor (kind : NoticeKind) (message : String) (duration : Nat) (board : NoticeBoard) :
    String × NoticeBoard :=
  let id := idOf (board.issued + 1)
  (id, { board with
    issued := board.issued + 1
    posted := board.posted ++ [⟨id, message, kind, .ofNat (duration / millisecond)⟩]
    timers :=
      if board.timed && duration ≠ 0 then board.timers ++ [⟨board.now + duration, id⟩]
      else board.timers })

/-- Puts up a notice for so many milliseconds, and gives back its id. -/
def push (kind : NoticeKind) (message : String) (durationMs : UInt64) (board : NoticeBoard) :
    String × NoticeBoard :=
  board.pushFor kind message (durationMs.toNat * millisecond)

/-- Puts up a notice for the usual time. -/
def post (kind : NoticeKind) (message : String) (board : NoticeBoard) : NoticeBoard :=
  (board.push kind message board.defaultMs).2

/-- **Takes down a notice,** and gives back whether it was up. Its timer keeps running. -/
def dismiss (id : String) (board : NoticeBoard) : Bool × NoticeBoard :=
  let left := board.posted.filter (·.id ≠ id)
  (left.length ≠ board.posted.length, { board with posted := left })

/-- A timer fires, whether its notice is still up or not. -/
def fire (board : NoticeBoard) (timer : NoticeTimer) : NoticeBoard := (board.dismiss timer.id).2

/-- **Lets time pass.** All timers that are due by then fire. -/
def pass (duration : Nat) (board : NoticeBoard) : NoticeBoard :=
  let now := board.now + duration
  let due := board.timers.filter (·.due ≤ now)
  let waiting := board.timers.filter (now < ·.due)
  due.foldl fire { board with now := now, timers := waiting }

/-- Lets so many milliseconds pass. -/
def advance (ms : Nat) (board : NoticeBoard) : NoticeBoard := board.pass (ms * millisecond)

/-- The notices that are up, oldest first. -/
def notices (board : NoticeBoard) : List Notice := board.posted

end NoticeBoard

end LaneChart
